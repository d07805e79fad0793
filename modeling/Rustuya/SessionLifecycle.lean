import Rustuya.TaskRefinement

/-!
# The session key over the life of a device

The key is stored at the end of a negotiation, cleared when the connection is given up and
read through a cache by everyone who packs a frame. For the versions that negotiate, every
frame is shown to be under the key that belongs to its connection.
-/
namespace SessionLifecycle

open CheckedExecution StatefulExecution ByteCodec Error Crypto Protocol Json SessionKey
open DeviceState StreamReader ConnectionLifecycle ConnectionTask TransitionSystem TaskRefinement

variable {C : Crates} {S : Codec} {build : Build} {w : World} {e : Event} {es : List Event}

def setsVersion : Event → Bool
  | .user (.setVersion _) => true
  | _ => false

theorem kind_reconfigured (h : kind w e = .reconfigured) : setsVersion e = true := by
  rcases kind_cases w e with hkind | ⟨hkind, -⟩ | ⟨hkind, -⟩ | ⟨-, version, rfl⟩
  · rw [h] at hkind
    cases hkind
  · rw [h] at hkind
    cases hkind
  · rw [h] at hkind
    cases hkind
  · rfl

abbrev sessionTerms (C : Crates) (build : Build) (b : DeviceBuilder) : Terms :=
  terms C build b.device fun key => key.length = 16

theorem stores_length (hC : C.GcmLaw) (localKey : Bytes) :
    Stores C localKey fun key => key.length = 16 :=
  fun _ _ _ _ hlen hkey => storedKey_length hC hlen hkey

theorem keyed_run (b : DeviceBuilder) (hversion : Negotiates b.version) :
    Keyed (sessionTerms C build b) (link b.run) where
  negotiates := hversion
  no_key_idle := fun _ => rfl
  no_key_handshake := nofun
  key_session := nofun
  key_agreed := nofun
  key_connected := nofun
  frames := nofun

theorem run_keyed (hC : C.GcmLaw) (b : DeviceBuilder) (hversion : Negotiates b.version)
    (h : Execution (next C S build b.device) (fun _ e => setsVersion e = false) b.run es w) :
    Keyed (sessionTerms C build b) (link w) := by
  refine (run_preserves (stores_length hC b.localKey) ?_
    (fun l k l' hstep hk hl => step_preserves_keyed hstep hk hl) h (placed_run b)
    (keyed_run b hversion)).2
  intro v e v' _ hallowed _ hkind
  rw [kind_reconfigured hkind] at hallowed
  cases hallowed

theorem getCipher_ok {device : Device} {s : State} (h : (s.activeKey device).length = 16) :
    ∃ cipher : TuyaCipher, cipher.key.val = s.activeKey device ∧
      (getCipher device).run s = (.ok cipher, { s with cipher := some cipher }) := by
  have hnew : TuyaCipher.new (s.activeKey device) = .ok ⟨⟨s.activeKey device, h⟩⟩ := dif_pos h
  refine ⟨⟨⟨s.activeKey device, h⟩⟩, rfl, ?_⟩
  rw [run_getCipher, hnew]
  rfl

/-- In every run of a device with a version that negotiates, as long as the user does not
change the version: what the negotiation sends is under the local key; every other frame is
under the key negotiated on its own connection; `get_cipher` returns, and leaves in the
cache, the cipher of the session key or else the local key; and a connected device has a
session key. -/
theorem frames_under_connection_key (C : Crates) (S : Codec) (build : Build) (hC : C.GcmLaw)
    (b : DeviceBuilder) (hkey : b.localKey.length = 16) (hversion : Negotiates b.version)
    (h : Execution (next C S build b.device) (fun _ e => setsVersion e = false) b.run es w) :
    (∀ c ∈ w.conns, ∀ f ∈ c.frames, Packed C build f.key f.bytes ∧
      (f.handshake = true → (f.cmd = 3 ∨ f.cmd = 5) ∧ f.key = b.localKey) ∧
      (f.handshake = false → c.negotiated = some f.key)) ∧
    (∃ cipher : TuyaCipher, cipher.key.val = w.shared.sessionKey.getD b.localKey ∧
      (getCipher b.device).run w.shared = (.ok cipher, { w.shared with cipher := some cipher })) ∧
    (w.shared.state = .connected → w.shared.sessionKey.isSome = true) := by
  have hkeyed := run_keyed hC b hversion h
  have hactive : (w.shared.activeKey b.device).length = 16 := by
    unfold State.activeKey
    cases hsession : w.shared.sessionKey with
    | none => exact hkey
    | some key => exact hkeyed.key_agreed key hsession
  refine ⟨fun c hc f hf => ?_, getCipher_ok hactive, hkeyed.key_connected⟩
  have hframe := hkeyed.frames c hc f hf
  refine ⟨hframe.packed, fun hh => ?_, fun hh => ?_⟩
  · rcases hframe.key with ⟨-, hcmd, hlocal⟩ | ⟨hf, -⟩
    · exact ⟨hcmd, hlocal⟩
    · rw [hh] at hf
      cases hf
  · rcases hframe.key with ⟨hf, -⟩ | ⟨-, hneg⟩
    · rw [hh] at hf
      cases hf
    · exact hneg

section Sample

def responseFrame : Bytes :=
  match respond KnownAnswers.crates .release .v34 KnownAnswers.sampleKey KnownAnswers.localNonce.val
    KnownAnswers.remoteNonce.val 1 0 KnownAnswers.sampleIv with
  | .ok frame => frame
  | .err _ | .panic => []

def frameSteps (n : Nat) : List Event :=
  [.task .go, .task .go, .task (.packed KnownAnswers.sampleIv), .task (.wrote n), .task .writeDone]

def negotiationSteps : List Event :=
  [.task .slept, .task .go, .task .go, .task .go, .task .go, .task .dialed, .task .go,
    .task (.drawn KnownAnswers.localNonce)] ++ frameSteps 84 ++
  [.task (.response (responseFrame.headD 0) ⟨responseFrame.tail, .silent⟩)] ++ frameSteps 100 ++
  [.task .go]

def requestSteps (command : CommandType) (n : Nat) : List Event :=
  [.task .go, .task .go, .task .go, .user (.submit ⟨1, command, none, none⟩), .task .recv,
    .task .go, .task (.clock 1700000000)] ++ frameSteps n

structure FrameKey where
  handshake : Bool
  cmd : UInt32
  key : Bytes
  deriving DecidableEq

structure ConnectionKeys where
  negotiated : Option Bytes
  frames : List FrameKey
  deriving DecidableEq

/-- For each connection its key, and the command and key of its frames. -/
def keysOf (w : World) : List ConnectionKeys :=
  w.conns.map fun c => ⟨c.negotiated, c.frames.map fun f => ⟨f.handshake, f.cmd, f.key⟩⟩

def afterCommand (cmd : UInt32) : List ConnectionKeys :=
  [⟨some KnownAnswers.sessionKey.val,
    [⟨false, cmd, KnownAnswers.sessionKey.val⟩, ⟨true, 5, KnownAnswers.sampleKey.val⟩,
      ⟨true, 3, KnownAnswers.sampleKey.val⟩]⟩]

theorem heartbeat_under_session_key :
    ∃ w, run (guarded (fun _ e => !setsVersion e) (sampleNext .v34)) (sampleBuilder .v34).run
        (negotiationSteps ++ requestSteps .heartBeat 100) = some w ∧
      (keysOf w, w.connected) = (afterCommand 9, true) ∧
      (∀ c ∈ w.conns, ∀ f ∈ c.frames, Packed KnownAnswers.crates .release f.key f.bytes) ∧
      w.shared.sessionKey.isSome = true := by
  obtain ⟨w, hrun, hkeys⟩ := Option.map_eq_some_iff.mp (show
    (run (guarded (fun _ e => !setsVersion e) (sampleNext .v34)) (sampleBuilder .v34).run
      (negotiationSteps ++ requestSteps .heartBeat 100)).map (fun w => (keysOf w, w.connected))
      = some (afterCommand 9, true) by decide +kernel)
  obtain ⟨hframes, -, hconnected⟩ := frames_under_connection_key KnownAnswers.crates
    (KnownAnswers.json []) .release KnownAnswers.gcmLaw (sampleBuilder .v34) (by decide) (.inl rfl)
    (execution_of_guarded_run (fun _ _ h => by simpa using h) hrun)
  refine ⟨w, hrun, hkeys, fun c hc f hf => (hframes c hc f hf).1, hconnected ?_⟩
  exact of_decide_eq_true (congrArg Prod.snd hkeys)

/-- When the key has just been stored, the cache still holds the cipher of the local key.
A `SessKeyNegStart` that the user sends afterwards is under the session key. -/
theorem requested_negotiation_under_session_key :
    KnownAnswers.sessionKey ≠ KnownAnswers.sampleKey ∧
    ∃ stored w,
      run (sampleNext .v34) (sampleBuilder .v34).run negotiationSteps = some stored ∧
      (stored.shared.sessionKey, stored.shared.cipher)
        = (some KnownAnswers.sessionKey.val, some ⟨KnownAnswers.sampleKey⟩) ∧
      run (sampleNext .v34) stored (requestSteps .sessKeyNegStart 132) = some w ∧
      keysOf w = afterCommand 3 := by
  refine ⟨by decide, runs_of_observed ?_⟩
  decide +kernel

end Sample

end SessionLifecycle
