import Rustuya.StreamReader

/-!
# Detecting the type of a device

Two checks made on a received message can show that a device is of the type 22. Each reads
the settings under the lock, computes without it, and may then set the device type. Here
the computation between reading and setting is a function, and the whole check is that
function between two accesses to the state.
-/
namespace DeviceDetection

open CheckedExecution StatefulExecution ByteCodec Error Crypto Message Protocol DeviceState
open StreamReader

inductive Verdict (α : Type) where
  | accept (a : α)
  /-- The value is returned after the device type has been set. -/
  | adopt (a : α)
  | reject (e : TuyaError)
  | panic

section Verdicts

variable {α : Type}

def Verdict.result : Verdict α → Result α
  | .accept a | .adopt a => .ok a
  | .reject e => .err e
  | .panic => .panic

def Verdict.apply (s : State) : Verdict α → State
  | .adopt _ => { s with devType := .device22 }
  | .accept _ | .reject _ | .panic => s

variable (C : Crates) (build : Build)

/-- `unpack_and_check_dev22` between `get_cipher` and `set_dev_type`. -/
def unpackVerdict (packet : Bytes) (header : TuyaHeader) (version : Version)
    (devType : DeviceType) (cipher : TuyaCipher) : Verdict TuyaMessage :=
  let protocol := getProtocol version devType
  match unpackMessage C build packet (protocol.getHmacKey cipher.key.val) (some header)
      (some false) with
  | .ok d => .accept d
  | .err e =>
    if protocol.shouldCheckDev22Fallback && decide (devType = .auto) then
      match unpackMessage C build packet none (some header) (some false) with
      | .ok d => .adopt d
      | .err _ => .reject e
      | .panic => .panic
    else .reject e
  | .panic => .panic

/-- `decrypt_and_clean_payload` between `get_cipher` and `set_dev_type`. -/
def decryptVerdict (payload : Bytes) (version : Version) (originalDevType : DeviceType)
    (cipher : TuyaCipher) : Verdict Bytes :=
  let devType := if originalDevType = .auto then .default else originalDevType
  let protocol := getProtocol version devType
  match protocol.decryptPayload C payload cipher with
  | .ok decrypted =>
    if protocol.shouldCheckDev22Fallback && decide (originalDevType = .auto) &&
        decide (dataUnvalid <:+: decrypted) then .adopt decrypted
    else .accept decrypted
  | .err e => .reject e
  | .panic => .panic

end Verdicts

section Facts

variable {C : Crates} {build : Build} {version : Version} {devType : DeviceType}
  {cipher : TuyaCipher}

theorem unpack_adopts {packet : Bytes} {header : TuyaHeader} {d : TuyaMessage}
    (h : unpackVerdict C build packet header version devType cipher = .adopt d) :
    devType = .auto ∧ (getProtocol version devType).shouldCheckDev22Fallback = true := by
  unfold unpackVerdict at h
  dsimp only at h
  split at h
  · cases h
  · split at h
    next hopen =>
      obtain ⟨hcheck, hauto⟩ := Bool.and_eq_true_iff.mp hopen
      exact ⟨of_decide_eq_true hauto, hcheck⟩
    · cases h
  · cases h

theorem decrypt_adopts {payload decrypted : Bytes}
    (h : decryptVerdict C payload version devType cipher = .adopt decrypted) : devType = .auto := by
  by_contra hknown
  unfold decryptVerdict at h
  simp only [if_neg hknown, decide_eq_false hknown, Bool.and_false, Bool.false_and,
    Bool.false_eq_true, if_false] at h
  split at h <;> cases h

theorem unpack_known (hdev : devType ≠ .auto) (packet : Bytes) (header : TuyaHeader) :
    (unpackVerdict C build packet header version devType cipher).result
      = unpackMessage C build packet ((getProtocol version devType).getHmacKey cipher.key.val)
        (some header) (some false) := by
  unfold unpackVerdict
  dsimp only
  split
  next d hmsg => exact hmsg.symm
  next e hmsg =>
    rw [decide_eq_false hdev, Bool.and_false, if_neg Bool.false_ne_true]
    exact hmsg.symm
  next hmsg => exact hmsg.symm

theorem decrypt_known (hdev : devType ≠ .auto) (payload : Bytes) :
    (decryptVerdict C payload version devType cipher).result
      = (getProtocol version devType).decryptPayload C payload cipher := by
  unfold decryptVerdict
  dsimp only
  rw [if_neg hdev]
  split
  next decrypted hdec =>
    rw [decide_eq_false hdev, Bool.and_false, Bool.false_and, if_neg Bool.false_ne_true]
    exact hdec.symm
  next e hdec => exact hdec.symm
  next hdec => exact hdec.symm

end Facts

section Atomic

variable (C : Crates) (build : Build) (device : Device)

def checked {α : Type} (s : State) (verdict : TuyaCipher → Verdict α) : Result α × State :=
  match TuyaCipher.new (s.activeKey device) with
  | .ok cipher => ((verdict cipher).result, (verdict cipher).apply (s.cached (.ok cipher)))
  | .err e => (.err e, s)
  | .panic => (.panic, s)

theorem checked_known {α : Type} (s : State) {verdict : TuyaCipher → Verdict α}
    (hkept : ∀ cipher a, verdict cipher ≠ .adopt a) :
    checked device s verdict
      = ((TuyaCipher.new (s.activeKey device) >>= fun cipher => (verdict cipher).result),
        s.cached (TuyaCipher.new (s.activeKey device))) := by
  unfold checked
  cases TuyaCipher.new (s.activeKey device) with
  | panic => rfl
  | err e => rfl
  | ok cipher =>
    rw [Outcome.ok_bind]
    dsimp only
    cases hverdict : verdict cipher with
    | adopt a => exact absurd hverdict (hkept cipher a)
    | _ => rfl

theorem run_unpackVerdict (packet : Bytes) (header : TuyaHeader) (s : State) :
    (unpackAndCheckDev22 C build device packet header).run s
      = checked device s (unpackVerdict C build packet header s.version s.devType) := by
  have hcipher := run_getCipher device s
  rw [unpackAndCheckDev22, checked, Program.run_bind_ok (Program.run_read _ s)]
  dsimp only
  cases hnew : TuyaCipher.new (s.activeKey device) with
  | panic =>
    rw [hnew] at hcipher
    exact Program.run_bind_panic hcipher
  | err e =>
    rw [hnew] at hcipher
    exact Program.run_bind_err hcipher
  | ok cipher =>
    rw [hnew] at hcipher
    rw [Program.run_bind_ok hcipher]
    dsimp only [unpackVerdict]
    cases unpackMessage C build packet
        ((getProtocol s.version s.devType).getHmacKey cipher.key.val) (some header)
        (some false) with
    | ok msg => rfl
    | panic => rfl
    | err e =>
      rw [Program.run_orElse_err (Program.run_lift _ _)]
      dsimp only
      split
      · cases unpackMessage C build packet none (some header) (some false) <;> rfl
      · rfl

theorem run_decryptVerdict (payload : Bytes) (s : State) :
    (decryptAndCleanPayload C device payload).run s
      = checked device s (decryptVerdict C payload s.version s.devType) := by
  have hcipher := run_getCipher device s
  rw [decryptAndCleanPayload, checked, Program.run_bind_ok (Program.run_read _ s)]
  dsimp only
  cases hnew : TuyaCipher.new (s.activeKey device) with
  | panic =>
    rw [hnew] at hcipher
    exact Program.run_bind_panic hcipher
  | err e =>
    rw [hnew] at hcipher
    exact Program.run_bind_err hcipher
  | ok cipher =>
    rw [hnew] at hcipher
    rw [Program.run_bind_ok hcipher]
    dsimp only [decryptVerdict]
    cases (getProtocol s.version (if s.devType = .auto then .default else s.devType)
        ).decryptPayload C payload cipher with
    | panic => rfl
    | err e => rfl
    | ok decrypted =>
      rw [Program.run_bind_ok (Program.run_lift _ _)]
      dsimp only
      split <;> split <;> rfl

end Atomic

end DeviceDetection
