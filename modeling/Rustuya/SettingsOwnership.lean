import Rustuya.TaskBranches

/-!
# Who changes the settings

The version, the device type and the address are set by the user. The task and the reader
only fill in what is still to be detected: the version when a device has been discovered,
the device type when a message has been read. No other step touches them.
-/
namespace SettingsOwnership

open CheckedExecution StatefulExecution ByteCodec Error Crypto Message Protocol Json
open SessionKey DeviceState StreamReader ConnectionLifecycle ConnectionTask
open TaskBranches (Branch SendFailure Call setting taskNext_branch next_move)

structure Settings where
  version : Version
  devType : DeviceType
  configAddress : String
  deriving DecidableEq

def settings (s : State) : Settings := ⟨s.version, s.devType, s.configAddress⟩

/-- The bytes from which a step reads a message. The task reads the response of the device
itself; all other messages are read by the reader. -/
def reading (w : World) : Event → Option (UInt8 × Stream)
  | .reader (.packet firstByte stream) | .reader (.late firstByte stream) =>
    some (firstByte, stream)
  | .task (.response firstByte stream) =>
    match w.pc with
    | .connecting _ (.awaitResponse _ _) => some (firstByte, stream)
    | _ => none
  | _ => none

def afterReading (C : Crates) (S : Codec) (build : Build) (device : Device) (s : State)
    (firstByte : UInt8) (stream : Stream) : State :=
  ((readAndParseFromStream C S build device firstByte).run ⟨s, stream, []⟩).2.device

inductive Change (C : Crates) (S : Codec) (build : Build) (device : Device) (w : World)
    (e : Event) (w' : World) : Prop where
  | kept (h : settings w'.shared = settings w.shared)
  | detected (version : Version) (hauto : w.shared.version = .auto)
      (h : settings w'.shared = { settings w.shared with version })
  | read (firstByte : UInt8) (stream : Stream) (hreading : reading w e = some (firstByte, stream))
      (h : settings w'.shared
        = settings (afterReading C S build device w.shared firstByte stream))
  | user (u : UserEvent) (f : State → State) (he : e = .user u) (hf : setting u = some f)
      (h : w'.shared = f w.shared)

section Task

variable {C : Crates} {S : Codec} {build : Build} {device : Device} {w w' : World} {e : TaskEvent}

/-- Only the negotiation reads a response, and all that it does to the device is to read it. -/
theorem branch_reads {firstByte : UInt8} {stream : Stream}
    (h : Branch C S build device w (.response firstByte stream) w') :
    reading w (.task (.response firstByte stream)) = some (firstByte, stream) ∧
      w'.shared = afterReading C S build device w.shared firstByte stream := by
  cases h with
  | responds a protocol nonce _ _ resp r sessionKey finishHmac hpc hread =>
    rw [reading, hpc, afterReading, hread]
    exact ⟨rfl, rfl⟩
  | responseRefused a protocol nonce _ _ err hfail hpc =>
    rw [reading, hpc]
    exact ⟨rfl, rfl⟩
  | responseCrashes a protocol nonce _ _ hpanic hpc =>
    rw [reading, hpc]
    exact ⟨rfl, rfl⟩
  | dialFails _ _ _ _ _ herr => cases herr
  | unanswered _ _ _ _ _ _ herr => cases herr
  | negotiationUnsent _ _ _ _ _ _ hfail => cases hfail
  | requestUnsent _ _ _ _ _ hfail => cases hfail
  | heartbeatUnsent _ _ _ hfail => cases hfail

theorem settings_cached (s : State) (cipher : Result TuyaCipher) :
    settings (s.cached cipher) = settings s := by
  cases cipher <;> rfl

/-- What a discovered device tells is only taken for a version that is not known. -/
theorem detectedVersion_eq (version : Version) (found : Option Version) :
    detectedVersion version found = version ∨ version = .auto := by
  unfold detectedVersion
  split
  next hauto => exact .inr hauto
  · exact .inl rfl

theorem branch_change (h : Branch C S build device w e w') :
    Change C S build device w (.task e) w' := by
  by_cases hresponse : ∃ firstByte stream, e = .response firstByte stream
  · obtain ⟨firstByte, stream, rfl⟩ := hresponse
    obtain ⟨hreading, hshared⟩ := branch_reads h
    exact .read firstByte stream hreading (congrArg settings hshared)
  · cases h
    case responds | responseRefused | responseCrashes => exact absurd ⟨_, _, rfl⟩ hresponse
    case discovers a addr result hpc =>
      rcases detectedVersion_eq w.shared.version result.version with hsame | hauto
      · exact .kept (congrArg (fun version => { settings w.shared with version }) hsame)
      · exact .detected _ hauto rfl
    case packCrashes => exact .kept (settings_cached _ _)
    case negotiationUnsent hfail | requestUnsent hfail | heartbeatUnsent hfail =>
      exact .kept (hfail.keeps (f := settings) settings_cached)
    all_goals exact .kept rfl

end Task

section System

variable {C : Crates} {S : Codec} {build : Build} {device : Device} {w w' : World} {e : Event}

theorem processSocketData_settings (firstByte : UInt8) (s : State) (stream : Stream) :
    settings ((processSocketData C S build device firstByte).run ⟨s, stream, []⟩).2.device
      = settings (afterReading C S build device s firstByte stream) := by
  rw [processSocketData_device, afterReading]
  split
  next hread =>
    rw [hread]
    exact resetFailureCount_keeps build (f := settings) (fun _ _ _ => rfl) _
  next hread => rw [hread]

theorem readerNext_settings {r : ReaderEvent} {firstByte : UInt8} {stream : Stream}
    (h : readerNext C S build device w r = some w')
    (hr : r = .packet firstByte stream ∨ r = .late firstByte stream) :
    settings w'.shared = settings (afterReading C S build device w.shared firstByte stream) := by
  rw [← processSocketData_settings]
  rcases hr with rfl | rfl <;> cases readerNext_inv h <;> rfl

theorem readerNext_change {r : ReaderEvent} (h : readerNext C S build device w r = some w') :
    Change C S build device w (.reader r) w' := by
  cases r with
  | packet firstByte stream =>
    exact .read firstByte stream rfl (readerNext_settings h (.inl rfl))
  | late firstByte stream =>
    exact .read firstByte stream rfl (readerNext_settings h (.inr rfl))
  | ended | cancelled | gone =>
    cases readerNext_inv h
    exact .kept rfl

theorem next_change (h : next C S build device w e = some w') :
    Change C S build device w e w' := by
  cases next_move h with
  | task hbranch => exact branch_change hbranch
  | drop => exact .kept rfl
  | reader => exact readerNext_change h
  | @user u _ hcall =>
    cases hcall with
    | sets _ f hf => exact .user u f rfl hf rfl
    | _ => exact .kept rfl

theorem reading_settings {firstByte : UInt8} {stream : Stream}
    (h : next C S build device w e = some w') (hreading : reading w e = some (firstByte, stream)) :
    settings w'.shared = settings (afterReading C S build device w.shared firstByte stream) := by
  unfold reading at hreading
  split at hreading
  · cases hreading
    exact readerNext_settings (r := .packet _ _) h (.inl rfl)
  · cases hreading
    exact readerNext_settings (r := .late _ _) h (.inr rfl)
  · split at hreading
    · cases hreading
      exact congrArg settings (branch_reads (taskNext_branch h)).2
    · cases hreading
  · cases hreading

end System

end SettingsOwnership
