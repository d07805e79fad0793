import Rustuya.TaskRefinement

/-!
# What is written to a connection

Frames are written by the negotiation, by requests and by heartbeats. The negotiation and
the heartbeat give the connection up when a write fails. A request answers its caller and
keeps the connection, also when a part of its frame has been written.
-/
namespace WireIntegrity

open CheckedExecution ByteCodec Error Crypto Protocol Json DeviceState ConnectionLifecycle
open ConnectionTask TransitionSystem TaskRefinement

variable {C : Crates} {S : Codec} {build : Build} {device : Device} {w w' : World} {e : Event}
  {es : List Event}

def cutsRequest (w : World) : Event → Bool
  | .task (.writeFailed _) =>
    match w.pc, w.current with
    | .sending (.session (.request _ _)) .write, some f => decide (0 < f.written)
    | _, _ => false
  | _ => false

theorem kind_torn (h : kind w e = .torn) : cutsRequest w e = true := by
  rcases kind_cases w e with
    hkind | ⟨hkind, -⟩ | ⟨-, req, initial, failure, f, hpc, rfl, hf, hpos⟩ | ⟨hkind, -⟩
  · rw [h] at hkind
    cases hkind
  · rw [h] at hkind
    cases hkind
  · rw [cutsRequest, hpc, hf]
    exact decide_eq_true (Nat.pos_of_ne_zero hpos)
  · rw [h] at hkind
    cases hkind

/-- An incomplete frame is left on a connection that is still in use. -/
def Exposed (w : World) : Prop :=
  ((stageOf w.pc).Live ∧ writingAt w.pc = false) ∧ ∃ f, w.current = some f ∧ ¬ f.Whole

theorem current_mem {f : Frame} (h : w.current = some f) :
    ∃ c rest, w.conns = c :: rest ∧ f ∈ c.frames := by
  unfold World.current at h
  obtain ⟨c, hc, hf⟩ := Option.bind_eq_some_iff.mp h
  obtain ⟨rest, hconns⟩ := List.head?_eq_some_iff.mp hc
  exact ⟨c, rest, hconns, List.mem_of_head? hf⟩

theorem framed_not_exposed {T : Terms} (h : Framed T (link w)) : ¬ Exposed w := by
  rintro ⟨⟨hlive, hwriting⟩, f, hf, hpart⟩
  obtain ⟨c, rest, hconns, hmem⟩ := current_mem hf
  exact hpart (h.latest hlive hwriting c rest hconns f hmem)

theorem cut_exposes (hcut : cutsRequest w e = true) (h : next C S build device w e = some w') :
    Exposed w' := by
  unfold cutsRequest at hcut
  split at hcut
  next failure =>
    split at hcut
    next req initial f hpc hf =>
      have hpos : 0 < f.written := of_decide_eq_true hcut
      rw [next, taskNext, hpc] at h
      dsimp only [sendRawToStream, writeAll] at h
      rw [hf] at h
      dsimp only at h
      split at h
      next hlt =>
        cases h
        refine ⟨?_, f, hf, ?_⟩
        · cases initial <;> exact ⟨trivial, rfl⟩
        · rintro (hzero | hfull) <;> omega
      · cases h
    · cases hcut
  · cases hcut

theorem run_framed (b : DeviceBuilder)
    (h : Execution (next C S build b.device) (fun w e => cutsRequest w e = false) b.run es w) :
    Framed (terms C build b.device fun _ => True) (link w) := by
  refine (run_preserves (fun _ _ _ _ _ _ => trivial) ?_
    (fun l k l' hstep hk hl => step_preserves_framed hstep hk hl) h (placed_run b)
    ⟨nofun, nofun, nofun⟩).2
  intro v e v' _ hallowed _ htorn
  rw [kind_torn htorn] at hallowed
  cases hallowed

/-- In every run in which no write of a request ends inside its frame, the bytes of every
connection are packed frames of which only the last may be cut short, and no frame that has
a successor is incomplete. The condition is exact: after such a run, a step leaves an
incomplete frame on a connection that is still in use just in case it cuts a request. -/
theorem connection_bytes_are_frames_iff (C : Crates) (S : Codec) (build : Build)
    (b : DeviceBuilder)
    (h : Execution (next C S build b.device) (fun w e => cutsRequest w e = false) b.run es w) :
    (∀ c ∈ w.conns, (∀ f ∈ c.frames.tail, f.Whole) ∧
      FrameSequence (fun x => ∃ key, Packed C build key x) c.bytes) ∧
    (∀ e w', next C S build b.device w e = some w' → (¬ Exposed w' ↔ cutsRequest w e = false)) := by
  have hframed := run_framed b h
  constructor
  · exact fun c hc => ⟨hframed.earlier c hc, hframed.frameSequence hc⟩
  · intro e w' hnext
    constructor
    · intro hexposed
      by_contra hcut
      exact hexposed (cut_exposes (Bool.not_eq_false _ ▸ hcut) hnext)
    · intro hcut
      have hrun := h.append (.cons hcut hnext (.nil w'))
      exact framed_not_exposed (run_framed b hrun)

section Sample

def connectSteps : List Event :=
  [.task .slept, .task .go, .task .go, .task .go, .task .go, .task .dialed, .task .go, .task .go,
    .task .go, .task .go]

def heartbeatSteps (id n : Nat) : List Event :=
  [.user (.submit ⟨id, .heartBeat, none, none⟩), .task .recv, .task .go,
    .task (.clock 1700000000), .task .go, .task .go, .task (.packed KnownAnswers.sampleIv),
    .task (.wrote n)]

def progressOf (w : World) : List (List (Nat × Nat)) :=
  w.conns.map fun c => c.frames.map fun f => (f.written, f.bytes.length)

theorem heartbeat_frames_follow :
    ∃ w, run (guarded (fun w e => !cutsRequest w e) (sampleNext .v33)) (sampleBuilder .v33).run
        (connectSteps ++ heartbeatSteps 1 72 ++ [.task .writeDone] ++ heartbeatSteps 2 10)
        = some w ∧
      progressOf w = [[(10, 72), (72, 72)]] ∧
      ∀ c ∈ w.conns,
        FrameSequence (fun x => ∃ key, Packed KnownAnswers.crates .release key x) c.bytes := by
  obtain ⟨w, hrun, hprogress⟩ : ∃ w, run (guarded (fun w e => !cutsRequest w e) (sampleNext .v33))
      (sampleBuilder .v33).run (connectSteps ++ heartbeatSteps 1 72 ++ [.task .writeDone] ++
        heartbeatSteps 2 10) = some w ∧ progressOf w = [[(10, 72), (72, 72)]] :=
    Option.map_eq_some_iff.mp (by decide +kernel)
  refine ⟨w, hrun, hprogress, fun c hc => ?_⟩
  exact ((connection_bytes_are_frames_iff KnownAnswers.crates (KnownAnswers.json []) .release
    (sampleBuilder .v33)
    (execution_of_guarded_run (fun _ _ h => by simpa using h) hrun)).1 c hc).2

/-- The write of a request times out after 10 of its 72 bytes. Its caller gets the error,
and the frame of the next request follows those 10 bytes. -/
theorem request_follows_torn_frame :
    ∃ torn w,
      run (sampleNext .v33) (sampleBuilder .v33).run (connectSteps ++ heartbeatSteps 1 10 ++
        [.task (.writeFailed .timeout)]) = some torn ∧
      progressOf torn = [[(10, 72)]] ∧
      run (sampleNext .v33) torn (heartbeatSteps 2 72) = some w ∧
      progressOf w = [[(72, 72), (10, 72)]] := by
  apply runs_of_observed
  decide +kernel

end Sample

end WireIntegrity
