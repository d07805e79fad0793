import Rustuya.RequestRefinement
import Rustuya.ThreadPool
import Rustuya.WireIntegrity

/-!
# Handles and the clones of the background tasks

A `Device` is a set of shared references, and dropping one looks at the number of them: the
last one cancels the background tasks. The connection task, the readers and the workers of
the synchronous interface hold clones of their own, which count as well.
-/
namespace HandleCounting

open CheckedExecution TransitionSystem Crypto Json DeviceState ConnectionTask RequestLifecycle
open RequestRefinement

section Clones

def taskClones (w : World) : Nat :=
  match w.pc with
  | .exited | .crashed => 0
  | _ => 1

/-- A reader that was aborted keeps its clone until it notices. -/
def readerClones (w : World) : Nat :=
  match w.reader with
  | .running _ => w.lingering + 1
  | .absent | .finished => w.lingering

def taskAndReaderClones (w : World) : Nat := taskClones w + readerClones w

end Clones

/-- The task behind a handle of the synchronous interface, with the number of handles that
can send commands to it. -/
structure Worker where
  senders : Nat
  running : Bool
  deriving DecidableEq

def Worker.clones (k : Worker) : Nat := if k.running then 1 else 0

structure Handles where
  world : World
  /-- The `Device` and `SubDevice` handles of the user. -/
  held : Nat
  /-- The synchronous handles of the user are the senders of these. -/
  workers : List Worker
  /-- The clones of tasks that have just ended. -/
  expiring : Nat

def Handles.userHandles (h : Handles) : Nat := h.held + (h.workers.map Worker.senders).sum

def Handles.backgroundClones (h : Handles) : Nat :=
  (h.workers.map Worker.clones).sum + taskAndReaderClones h.world + h.expiring

def Handles.strongCount (h : Handles) : Nat := h.userHandles + h.backgroundClones

/-- `Drop for Device`, for one of the counted references. -/
def Handles.dropDevice (h : Handles) : Handles :=
  if h.strongCount ≤ 1 then { h with world := { h.world with cancelled := true } } else h

inductive HandleEvent where
  /-- Also `sub`, and the clone of a `SubDevice`. -/
  | clone
  | drop
  /-- `from_async` makes a synchronous handle from another one. -/
  | fromAsync
  | cloneSync (i : Nat)
  /-- The handle inside a synchronous one is cloned. -/
  | cloneInner (i : Nat)
  | dropSync (i : Nat)
  /-- All senders of a worker are gone. -/
  | workerEnds (i : Nat)
  /-- A task that has ended drops its clone. -/
  | release
  | world (e : Event)

section Steps

variable (C : Crates) (S : Codec) (build : Build) (device : Device)

def worldNext (h : Handles) (e : Event) : Option Handles :=
  (next C S build device h.world e).map fun w =>
    { h with
      world := w
      expiring := h.expiring + (taskAndReaderClones h.world - taskAndReaderClones w) }

def onSender (h : Handles) (i : Nat) (f : Worker → Handles) : Option Handles :=
  h.workers[i]?.bind fun k => if 0 < k.senders then some (f k) else none

def handleNext (h : Handles) : HandleEvent → Option Handles
  | .clone => if 0 < h.held then some { h with held := h.held + 1 } else none
  | .drop => if 0 < h.held then some { h.dropDevice with held := h.held - 1 } else none
  | .fromAsync =>
    if 0 < h.held then
      some { h with held := h.held - 1, workers := h.workers ++ [⟨1, true⟩] }
    else none
  | .cloneSync i =>
    onSender h i fun k => { h with workers := h.workers.set i { k with senders := k.senders + 1 } }
  | .cloneInner i => onSender h i fun _ => { h with held := h.held + 1 }
  | .dropSync i =>
    onSender h i fun k =>
      { h.dropDevice with workers := h.workers.set i { k with senders := k.senders - 1 } }
  | .workerEnds i =>
    h.workers[i]?.bind fun k =>
      if k.running ∧ k.senders = 0 then
        some { h.dropDevice with workers := h.workers.set i { k with running := false } }
      else none
  | .release =>
    if 0 < h.expiring then some { h.dropDevice with expiring := h.expiring - 1 } else none
  | .world e => worldNext C S build device h e

def start (b : DeviceBuilder) : Handles := ⟨b.run, 1, [], 0⟩

end Steps

section Effects

variable {C : Crates} {S : Codec} {build : Build} {device : Device} {h h' : Handles}
  {e : HandleEvent}

def dropsHandle : HandleEvent → Bool
  | .drop | .dropSync _ => true
  | _ => false

theorem dropDevice_held : h.dropDevice.held = h.held := by
  unfold Handles.dropDevice
  split <;> rfl

theorem dropDevice_workers : h.dropDevice.workers = h.workers := by
  unfold Handles.dropDevice
  split <;> rfl

theorem dropDevice_cancelled :
    h.dropDevice.world.cancelled = (h.world.cancelled || decide (h.strongCount ≤ 1)) := by
  unfold Handles.dropDevice
  split
  next hlast => rw [decide_eq_true hlast, Bool.or_true]
  next hmore => rw [decide_eq_false hmore, Bool.or_false]

theorem dropDevice_keeps (hcancelled : h.world.cancelled = true) :
    h.dropDevice.world.cancelled = true := by
  rw [dropDevice_cancelled, hcancelled, Bool.true_or]

theorem next_cancelled {w w' : World} {e : Event}
    (hnext : ConnectionTask.next C S build device w e = some w') (hcancelled : w.cancelled = true) :
    w'.cancelled = true :=
  step_cancelled (next_step hnext) hcancelled

theorem onSender_eq_some {i : Nat} {f : Worker → Handles} (hnext : onSender h i f = some h') :
    ∃ k, h.workers[i]? = some k ∧ 0 < k.senders ∧ h' = f k := by
  obtain ⟨k, hk, hstep⟩ := Option.bind_eq_some_iff.mp hnext
  split at hstep
  next hsome =>
    cases hstep
    exact ⟨k, hk, hsome, rfl⟩
  · cases hstep

theorem next_effect (hnext : handleNext C S build device h e = some h') :
    (dropsHandle e = false ∧ h.userHandles ≤ h'.userHandles ∧
      (h.world.cancelled = true → h'.world.cancelled = true)) ∨
    (dropsHandle e = true ∧ h.userHandles = h'.userHandles + 1 ∧
      h'.world.cancelled = (h.world.cancelled || decide (h.strongCount ≤ 1))) := by
  unfold Handles.userHandles
  cases e with
  | clone =>
    rw [handleNext] at hnext
    split at hnext <;> cases hnext
    exact .inl ⟨rfl, by dsimp only; omega, id⟩
  | drop =>
    rw [handleNext] at hnext
    split at hnext <;> cases hnext
    refine .inr ⟨rfl, ?_, dropDevice_cancelled⟩
    rw [dropDevice_workers]
    dsimp only
    omega
  | fromAsync =>
    rw [handleNext] at hnext
    split at hnext <;> cases hnext
    refine .inl ⟨rfl, ?_, id⟩
    simp only [List.map_append, List.sum_append, List.map_singleton, List.sum_singleton]
    omega
  | cloneSync i =>
    obtain ⟨k, hk, -, rfl⟩ := onSender_eq_some hnext
    have hset := ThreadPool.sum_set Worker.senders { k with senders := k.senders + 1 } hk
    exact .inl ⟨rfl, by dsimp only at hset ⊢; omega, id⟩
  | cloneInner i =>
    obtain ⟨k, -, -, rfl⟩ := onSender_eq_some hnext
    exact .inl ⟨rfl, by dsimp only; omega, id⟩
  | dropSync i =>
    obtain ⟨k, hk, hsome, rfl⟩ := onSender_eq_some hnext
    have hset := ThreadPool.sum_set Worker.senders { k with senders := k.senders - 1 } hk
    refine .inr ⟨rfl, ?_, dropDevice_cancelled⟩
    rw [dropDevice_held]
    dsimp only at hset ⊢
    omega
  | workerEnds i =>
    obtain ⟨k, hk, hstep⟩ := Option.bind_eq_some_iff.mp hnext
    split at hstep <;> cases hstep
    have hset := ThreadPool.sum_set Worker.senders { k with running := false } hk
    refine .inl ⟨rfl, ?_, dropDevice_keeps⟩
    rw [dropDevice_held]
    dsimp only at hset ⊢
    omega
  | release =>
    rw [handleNext] at hnext
    split at hnext <;> cases hnext
    refine .inl ⟨rfl, ?_, dropDevice_keeps⟩
    rw [dropDevice_held, dropDevice_workers]
  | world e =>
    obtain ⟨w, hw, rfl⟩ := Option.map_eq_some_iff.mp hnext
    exact .inl ⟨rfl, Nat.le_refl _, next_cancelled hw⟩

end Effects

section Runs

variable {C : Crates} {S : Codec} {build : Build} {h h' : Handles} {e : HandleEvent}
  {es : List HandleEvent}

/-- The last handle of the user is dropped when the tasks have been cancelled, or hold no
clone any more. -/
def Unshared (h : Handles) (e : HandleEvent) : Prop :=
  dropsHandle e = true → h.userHandles = 1 →
    h.world.cancelled = true ∨ h.backgroundClones = 0

theorem lastClone_iff (hlast : h.userHandles = 1) :
    h.strongCount ≤ 1 ↔ h.backgroundClones = 0 := by
  unfold Handles.strongCount
  omega

theorem step_unshared {device : Device} (hallowed : Unshared h e)
    (hnext : handleNext C S build device h e = some h')
    (hbefore : h.userHandles = 0 → h.world.cancelled = true) (hnone : h'.userHandles = 0) :
    h'.world.cancelled = true := by
  rcases next_effect hnext with ⟨-, hless, hkeeps⟩ | ⟨hdrops, hone, hcancelled⟩
  · exact hkeeps (hbefore (by omega))
  · have hlast : h.userHandles = 1 := by omega
    rw [hcancelled, Bool.or_eq_true, decide_eq_true_iff, lastClone_iff hlast]
    exact hallowed hdrops hlast

/-- In every run whose steps meet the condition, the tasks are cancelled once the user holds
no handle. The condition is exact: the step that drops the last handle cancels the tasks, or
finds them cancelled, if and only if it meets it. -/
theorem last_handle_cancels_iff (C : Crates) (S : Codec) (build : Build) (b : DeviceBuilder)
    (hrun : Execution (handleNext C S build b.device) Unshared (start b) es h) :
    (h.userHandles = 0 → h.world.cancelled = true) ∧
    ∀ e h', handleNext C S build b.device h e = some h' → h.userHandles ≠ 0 →
      h'.userHandles = 0 → (h'.world.cancelled = true ↔ Unshared h e) := by
  constructor
  · exact hrun.invariant (P := fun h => h.userHandles = 0 → h.world.cancelled = true)
      (fun _ _ _ hallowed hnext => step_unshared hallowed hnext) nofun
  · intro e h' hnext hsome hnone
    rcases next_effect hnext with ⟨-, hless, -⟩ | ⟨hdrops, hone, hcancelled⟩
    · omega
    · have hlast : h.userHandles = 1 := by omega
      rw [hcancelled, Bool.or_eq_true, decide_eq_true_iff, lastClone_iff hlast]
      constructor
      · exact fun hmet _ _ => hmet
      · exact fun hmet => hmet hdrops hlast

end Runs

section Sample

def stopSteps : List HandleEvent := [.world (.user .stop), .world (.user (.advance 0)), .drop]

def unshared (h : Handles) (e : HandleEvent) : Bool :=
  !(dropsHandle e && decide (h.userHandles = 1)) || h.world.cancelled ||
    decide (h.backgroundClones = 0)

theorem unshared_iff {h : Handles} {e : HandleEvent} : unshared h e = true ↔ Unshared h e := by
  simp only [unshared, Unshared, Bool.or_eq_true, Bool.not_eq_true', Bool.and_eq_false_imp,
    decide_eq_true_iff, decide_eq_false_iff_not, or_assoc, imp_iff_not_or, Bool.not_eq_true]

def sampleHandles : Handles → HandleEvent → Option Handles :=
  handleNext KnownAnswers.crates (KnownAnswers.json []) .release (sampleBuilder .v33).device

theorem stopped_handle_dropped :
    ∃ h, run (guarded unshared sampleHandles) (start (sampleBuilder .v33)) stopSteps = some h ∧
      h.userHandles = 0 ∧ h.world.cancelled = true := by
  obtain ⟨h, hrun, hnone⟩ : ∃ h, run (guarded unshared sampleHandles) (start (sampleBuilder .v33))
      stopSteps = some h ∧ h.userHandles = 0 := Option.map_eq_some_iff.mp (by decide +kernel)
  refine ⟨h, hrun, hnone, ?_⟩
  exact (last_handle_cancels_iff KnownAnswers.crates (KnownAnswers.json []) .release
    (sampleBuilder .v33) (execution_of_guarded_run (fun _ _ => unshared_iff.mp) hrun)).1 hnone

/-- The only handle is dropped, and the task goes on to connect. -/
theorem connected_without_handle :
    ∃ h, run sampleHandles (start (sampleBuilder .v33))
        (.drop :: WireIntegrity.connectSteps.map .world) = some h ∧
      h.userHandles = 0 ∧ h.world.cancelled = false ∧ h.world.connected = true := by
  obtain ⟨h, hrun, hobserved⟩ : ∃ h, run sampleHandles (start (sampleBuilder .v33))
        (.drop :: WireIntegrity.connectSteps.map .world) = some h ∧
      (h.userHandles, h.world.cancelled, h.world.connected) = (0, false, true) :=
    Option.map_eq_some_iff.mp (by decide +kernel)
  rw [Prod.mk.injEq, Prod.mk.injEq] at hobserved
  exact ⟨h, hrun, hobserved⟩

end Sample

end HandleCounting
