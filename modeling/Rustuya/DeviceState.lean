import Rustuya.CommandPayload
import Rustuya.StatefulExecution

/-!
# The shared state of a device

The record behind the lock, which the connection task, the reader and the callers share,
and the operations that each hold the lock once. Clocks, the port and the configured
timeout are not part of it.
-/
namespace DeviceState

open CheckedExecution StatefulExecution ByteCodec Error Crypto Message Protocol Json

inductive ConnectionState where
  | disconnected | connecting | connected | stopped
  deriving DecidableEq, Repr

/-- What does not change during the life of a device. -/
structure Device where
  id : String
  localKey : Bytes
  deriving DecidableEq

structure State where
  configAddress : String
  realIp : String
  version : Version
  devType : DeviceType
  state : ConnectionState
  persist : Bool
  sessionKey : Option Bytes
  failureCount : UInt32
  successCount : UInt32
  forceDiscovery : Bool
  cipher : Option TuyaCipher
  deriving DecidableEq

def State.protocol (s : State) : TuyaProtocol := getProtocol s.version s.devType

def State.activeKey (device : Device) (s : State) : Bytes := s.sessionKey.getD device.localKey

def freshCipher (key : Bytes) : Program State TuyaError TuyaCipher := do
  let newCipher ← Program.lift (TuyaCipher.new key)
  Program.write fun s => { s with cipher := some newCipher }
  return newCipher

/-- The cached cipher is used as long as it has the right key. -/
def getCipher (device : Device) : Program State TuyaError TuyaCipher := do
  let s ← Program.read id
  let key := s.activeKey device
  match s.cipher with
  | some cipher => if cipher.key.val = key then return cipher else freshCipher key
  | none => freshCipher key

def resetFailureCount (build : Build) : Program State TuyaError Unit := do
  let s ← Program.read id
  let successCount ← Program.lift (addU32 build s.successCount 1)
  if 0 < s.failureCount ∧ 3 ≤ successCount then
    Program.write fun s => { s with failureCount := 0, successCount := 0 }
  else
    Program.write fun s => { s with successCount }

def setDevType (devType : DeviceType) : Program State TuyaError Unit :=
  Program.write fun s => { s with devType }

section Errors

def keyErrCode : String := "errorCode"
def keyErrMsg : String := "errorMsg"
def keyErrPayloadObj : String := "errorPayload"
def keyPayloadStr : String := "payloadStr"
def keyPayloadRaw : String := "payloadRaw"

def takeRaw (obj : Map) : Option Value × Map :=
  match obj.get "data" with
  | some raw => (some raw, obj.remove "data")
  | none =>
    match obj.get "payload" with
    | some raw => (some raw, obj.remove "payload")
    | none =>
      match obj.get keyPayloadRaw with
      | some raw => (some raw, obj.remove keyPayloadRaw)
      | none => (none, obj)

def errorResponse (code : Nat) (payload : Option Value) : Map :=
  let response : Map := []
  let response := (response.insert keyErrMsg (.string (getErrorMessage code))).insert keyErrCode
    (Value.ofNat code)
  match payload with
  | none => response
  | some (.string s) => response.insert keyPayloadStr (.string s)
  | some (.object obj) =>
    let (raw, rest) := takeRaw obj
    let response := match raw with
      | some raw => response.insert keyPayloadRaw raw
      | none => response
    response.extend rest
  | some p => response.insert keyErrPayloadObj p

/-- Errors reach the listeners as messages with command 0. -/
def errorHelper (S : Codec) (s : State) (code : Nat) (payload : Option Value) : TuyaMessage :=
  { TuyaMessage.default with
    payload := S.toVec (.object (errorResponse code payload)),
    msgPrefix := s.protocol.getPrefix }

end Errors

section CipherCache

variable (device : Device) (s : State)

def State.cached (s : State) (cipher : Result TuyaCipher) : State :=
  match cipher with
  | .ok cipher => { s with cipher := some cipher }
  | .err _ | .panic => s

theorem run_freshCipher (key : Bytes) :
    (freshCipher key).run s = (TuyaCipher.new key, s.cached (TuyaCipher.new key)) := by
  unfold freshCipher
  cases TuyaCipher.new key with
  | ok c => rfl
  | err e => rfl
  | panic => rfl

/-- Whatever is cached, the cipher returned and cached is the one of the active key. -/
theorem run_getCipher : (getCipher device).run s =
    (TuyaCipher.new (s.activeKey device), s.cached (TuyaCipher.new (s.activeKey device))) := by
  unfold getCipher
  rw [Program.run_bind_ok (Program.run_read id s)]
  dsimp only [id]
  cases hc : s.cipher with
  | none => exact run_freshCipher s _
  | some cipher =>
    dsimp only
    split
    next hkey =>
      have hnew : TuyaCipher.new (s.activeKey device) = .ok cipher := by
        rw [← hkey]
        exact dif_pos cipher.key.property
      have hsame : s.cached (.ok cipher) = s := by rw [State.cached, ← hc]
      rw [hnew, hsame]
      rfl
    next => exact run_freshCipher s _

end CipherCache

section Settings

/-- Nothing that decides how messages are encoded has changed. -/
structure SameSettings (s t : State) : Prop where
  version : t.version = s.version
  devType : t.devType = s.devType
  sessionKey : t.sessionKey = s.sessionKey

variable {s t u : State}

theorem SameSettings.refl (s : State) : SameSettings s s := ⟨rfl, rfl, rfl⟩

theorem SameSettings.trans (h : SameSettings s t) (k : SameSettings t u) : SameSettings s u :=
  ⟨k.version.trans h.version, k.devType.trans h.devType, k.sessionKey.trans h.sessionKey⟩

theorem SameSettings.protocol (h : SameSettings s t) : t.protocol = s.protocol := by
  rw [State.protocol, State.protocol, h.version, h.devType]

theorem SameSettings.activeKey (h : SameSettings s t) (device : Device) :
    t.activeKey device = s.activeKey device := by
  rw [State.activeKey, State.activeKey, h.sessionKey]

theorem SameSettings.errorHelper (h : SameSettings s t) (S : Codec) (code : Nat)
    (payload : Option Value) : errorHelper S t code payload = errorHelper S s code payload := by
  rw [DeviceState.errorHelper, DeviceState.errorHelper, h.protocol]

theorem sameSettings_cached (s : State) (cipher : Result TuyaCipher) :
    SameSettings s (s.cached cipher) := by
  cases cipher <;> exact ⟨rfl, rfl, rfl⟩

@[simp] theorem successCount_cached (s : State) (cipher : Result TuyaCipher) :
    (s.cached cipher).successCount = s.successCount := by
  cases cipher <;> rfl

def State.counted (s : State) : State :=
  if 0 < s.failureCount ∧ 3 ≤ s.successCount + 1 then
    { s with failureCount := 0, successCount := 0 }
  else { s with successCount := s.successCount + 1 }

theorem sameSettings_counted (s : State) : SameSettings s s.counted := by
  unfold State.counted
  split <;> exact ⟨rfl, rfl, rfl⟩

theorem run_resetFailureCount {build : Build}
    (h : build.overflowChecks = true → s.successCount.toNat + 1 < 2 ^ 32) :
    (resetFailureCount build).run s = (.ok (), s.counted) := by
  have hadd : addU32 build s.successCount 1 = (.ok (s.successCount + 1) : Result UInt32) :=
    addU32_ok h
  rw [resetFailureCount, Program.run_bind_ok (Program.run_read id s)]
  dsimp only [id]
  rw [hadd, Program.run_bind_ok (Program.run_lift _ _), State.counted]
  split <;> rfl

theorem successCount_counted_le (s : State) :
    s.counted.successCount.toNat ≤ s.successCount.toNat + 1 := by
  unfold State.counted
  split
  · exact Nat.zero_le _
  · change (s.successCount + 1).toNat ≤ _
    rw [UInt32.toNat_add]
    exact Nat.mod_le _ _

theorem depth_takeRaw (obj : Map) :
    (∀ raw, (takeRaw obj).1 = some raw → raw.depth ≤ Value.depthFields obj) ∧
      Value.depthFields (takeRaw obj).2 ≤ Value.depthFields obj := by
  have hremove : ∀ key, Value.depthFields (obj.remove key) ≤ Value.depthFields obj :=
    fun key => depthFields_filter_le _ obj
  unfold takeRaw
  split
  next raw hraw => exact ⟨fun _ h => Option.some.inj h ▸ depth_get_le hraw, hremove _⟩
  · split
    next raw hraw => exact ⟨fun _ h => Option.some.inj h ▸ depth_get_le hraw, hremove _⟩
    · split
      next raw hraw => exact ⟨fun _ h => Option.some.inj h ▸ depth_get_le hraw, hremove _⟩
      · exact ⟨fun _ h => absurd h (Option.some_ne_none _).symm, Nat.le_refl _⟩

theorem depth_errorResponse (code : Nat) (payload : Option Value) :
    (Value.object (errorResponse code payload)).depth ≤ payload.elim 0 Value.depth + 1 := by
  unfold errorResponse
  dsimp only
  generalize hbase : (Map.insert [] keyErrMsg (.string (getErrorMessage code))).insert keyErrCode
    (Value.ofNat code) = base
  have hflat : Value.depthFields base = 0 := by
    have hn : (Value.ofNat code).depth = 0 := rfl
    have hs : (Value.string (getErrorMessage code)).depth = 0 := rfl
    have h₀ : Value.depthFields [] = 0 := rfl
    have h₁ := depthFields_insert_le [] keyErrMsg (.string (getErrorMessage code))
    have h₂ := depthFields_insert_le (Map.insert [] keyErrMsg (.string (getErrorMessage code)))
      keyErrCode (Value.ofNat code)
    rw [hbase] at h₂
    omega
  have hinsert : ∀ key v, Value.depthFields (base.insert key v) ≤ v.depth := by
    intro key v
    have h := depthFields_insert_le base key v
    omega
  rw [Value.depth]
  apply Nat.succ_le_succ
  cases payload with
  | none => exact hflat.le
  | some v =>
    cases v with
    | object obj =>
      obtain ⟨hraw, hrest⟩ := depth_takeRaw obj
      have hdepth : (Value.object obj).depth = Value.depthFields obj + 1 := rfl
      rw [Option.elim_some]
      dsimp only
      split
      next raw htake =>
        have hextend := depthFields_extend_le (base.insert keyPayloadRaw raw) (takeRaw obj).2
        have hkept := hinsert keyPayloadRaw raw
        have hle := hraw raw htake
        omega
      · have hextend := depthFields_extend_le base (takeRaw obj).2
        omega
    | _ => exact hinsert _ _

end Settings

end DeviceState
