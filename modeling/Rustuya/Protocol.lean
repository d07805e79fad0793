import Rustuya.Message

/-!
# Protocol versions

The commands, the versions and what each version does to a payload on its way into a
frame and back. Versions 3.2 to 3.5 mark a payload with a 15-byte header that starts
with the version text; they differ in whether the header is inside the encryption.
-/
namespace Protocol

open CheckedExecution ByteCodec Error Crypto Message

inductive CommandType where
  | apConfig | active | sessKeyNegStart | sessKeyNegResp | sessKeyNegFinish | unbind | control
  | status | heartBeat | dpQuery | queryWifi | tokenBind | controlNew | enableWifi | wifiInfo
  | dpQueryNew | sceneExecute | updateDps | udpNew | apConfigNew | lanGwActive
  | lanSubDevRequest | lanDeleteSubDev | lanReportSubDev | lanScene | lanPublishCloudConfig
  | lanExportAppConfig | lanPublishAppConfig | reqDevInfo | lanExtStream
  deriving DecidableEq, Repr

def CommandType.code : CommandType → UInt32
  | .apConfig => 0x01
  | .active => 0x02
  | .sessKeyNegStart => 0x03
  | .sessKeyNegResp => 0x04
  | .sessKeyNegFinish => 0x05
  | .unbind => 0x06
  | .control => 0x07
  | .status => 0x08
  | .heartBeat => 0x09
  | .dpQuery => 0x0a
  | .queryWifi => 0x0b
  | .tokenBind => 0x0c
  | .controlNew => 0x0d
  | .enableWifi => 0x0e
  | .wifiInfo => 0x0f
  | .dpQueryNew => 0x10
  | .sceneExecute => 0x11
  | .updateDps => 0x12
  | .udpNew => 0x13
  | .apConfigNew => 0x14
  | .lanGwActive => 0xfa
  | .lanSubDevRequest => 0xfb
  | .lanDeleteSubDev => 0xfc
  | .lanReportSubDev => 0xfd
  | .lanScene => 0xfe
  | .lanPublishCloudConfig => 0xff
  | .lanExportAppConfig => 0x22
  | .lanPublishAppConfig => 0x23
  | .reqDevInfo => 0x25
  | .lanExtStream => 0x40

def noProtocolHeaderCmds : List UInt32 :=
  [CommandType.dpQuery.code, CommandType.dpQueryNew.code, CommandType.updateDps.code,
    CommandType.heartBeat.code, CommandType.sessKeyNegStart.code,
    CommandType.sessKeyNegResp.code, CommandType.sessKeyNegFinish.code,
    CommandType.lanExtStream.code]

inductive Version where
  | auto | v31 | v32 | v33 | v34 | v35
  deriving DecidableEq, Repr

def Version.asStr : Version → String
  | .auto => "Auto"
  | .v31 => "3.1"
  | .v32 => "3.2"
  | .v33 => "3.3"
  | .v34 => "3.4"
  | .v35 => "3.5"

def Version.asBytes (v : Version) : Bytes := utf8 v.asStr

inductive DeviceType where
  | auto | default | device22
  deriving DecidableEq, Repr

/-- The implementations of the protocol trait; `dev22` wraps another one. -/
inductive TuyaProtocol where
  | v31 | v32 | v33 | v34 | v35
  | dev22 (base : TuyaProtocol)
  deriving DecidableEq, Repr

def getProtocol (version : Version) (devType : DeviceType) : TuyaProtocol :=
  let base := match version with
    | .v31 => .v31
    | .v32 => .v32
    | .v33 => .v33
    | .v34 => .v34
    | .v35 => .v35
    | .auto => .v33
  if devType = .device22 then .dev22 base else base

section Payload

variable (C : Crates)

def addProtocolHeader (version : Version) (payload : Bytes) : Bytes :=
  version.asBytes ++ List.replicate 12 0 ++ payload

def hasVersionHeader (version : Version) (payload : Bytes) : Bool :=
  decide (15 ≤ payload.length) && payload.take 3 == version.asBytes

def stripHeader (version : Version) (payload : Bytes) : Bytes :=
  if hasVersionHeader version payload then payload.drop 15 else payload

def hexDigit (n : Nat) : UInt8 := UInt8.ofNat (if n < 10 then 48 + n else 87 + n)

def hexEncode (data : Bytes) : Bytes :=
  data.flatMap (fun b => [hexDigit (b.toNat / 16), hexDigit (b.toNat % 16)])

def packPayloadV31 (payload : Bytes) (cmd : UInt32) (cipher : TuyaCipher) : Result Bytes :=
  if cmd = CommandType.control.code ∨ cmd = CommandType.controlNew.code then do
    let encrypted ← cipher.encrypt C payload false none none true
    let b64 := C.base64Encode encrypted
    let hash := C.md5 (utf8 "data=" ++ b64 ++ utf8 "||lpv=3.1||" ++ cipher.key.val)
    let md5Slice ← slice (hexEncode hash.val) 8 24
    .ok (utf8 "3.1" ++ md5Slice ++ b64)
  else .ok payload

def decryptPayloadV31 (payload : Bytes) (cipher : TuyaCipher) : Result Bytes :=
  if (utf8 "3.1").isPrefixOf payload ∧ 19 < payload.length then do
    let encryptedB64 ← sliceFrom payload 19
    let encrypted ← Outcome.okOr .decryptionFailed (C.base64Decode encryptedB64)
    cipher.decrypt C encrypted false none none
  else .ok payload

/-- Versions 3.2 and 3.3 put the header before the ciphertext. -/
def packPayloadOuter (version : Version) (payload : Bytes) (cmd : UInt32)
    (cipher : TuyaCipher) : Result Bytes := do
  let packed ← cipher.encrypt C payload false none none true
  if cmd ∉ noProtocolHeaderCmds then .ok (addProtocolHeader version packed) else .ok packed

/-- A ciphertext that does not decrypt is passed on as it is. -/
def decryptPayloadOuter (version : Version) (payload : Bytes) (cipher : TuyaCipher) :
    Result Bytes :=
  let payload := stripHeader version payload
  if payload.isEmpty then .ok payload
  else match cipher.decrypt C payload false none none with
    | .ok decrypted => .ok (stripHeader version decrypted)
    | .err _ => .ok payload
    | .panic => .panic

def packPayloadV32 := packPayloadOuter C .v32
def decryptPayloadV32 := decryptPayloadOuter C .v32
def packPayloadV33 := packPayloadOuter C .v33
def decryptPayloadV33 := decryptPayloadOuter C .v33

def packPayloadV34 (payload : Bytes) (cmd : UInt32) (cipher : TuyaCipher) : Result Bytes :=
  let data := if cmd ∉ noProtocolHeaderCmds then addProtocolHeader .v34 payload else payload
  cipher.encrypt C data false none none true

def decryptPayloadV34 (payload : Bytes) (cipher : TuyaCipher) : Result Bytes :=
  match cipher.decrypt C payload false none none with
  | .ok decrypted => .ok (stripHeader .v34 decrypted)
  | .err _ => .ok (stripHeader .v34 payload)
  | .panic => .panic

/-- Version 3.5 leaves the encryption to the frame. -/
def packPayloadV35 (payload : Bytes) (cmd : UInt32) : Result Bytes :=
  .ok (if cmd ∉ noProtocolHeaderCmds then addProtocolHeader .v35 payload else payload)

def decryptPayloadV35 (payload : Bytes) : Result Bytes :=
  .ok (stripHeader .v35 payload)

end Payload

namespace TuyaProtocol

variable (C : Crates)

def packPayload : TuyaProtocol → Bytes → UInt32 → TuyaCipher → Result Bytes
  | .v31, payload, cmd, cipher => packPayloadV31 C payload cmd cipher
  | .v32, payload, cmd, cipher => packPayloadV32 C payload cmd cipher
  | .v33, payload, cmd, cipher => packPayloadV33 C payload cmd cipher
  | .v34, payload, cmd, cipher => packPayloadV34 C payload cmd cipher
  | .v35, payload, cmd, _ => packPayloadV35 payload cmd
  | .dev22 base, payload, cmd, cipher => base.packPayload payload cmd cipher

def decryptPayload : TuyaProtocol → Bytes → TuyaCipher → Result Bytes
  | .v31, payload, cipher => decryptPayloadV31 C payload cipher
  | .v32, payload, cipher => decryptPayloadV32 C payload cipher
  | .v33, payload, cipher => decryptPayloadV33 C payload cipher
  | .v34, payload, cipher => decryptPayloadV34 C payload cipher
  | .v35, payload, _ => decryptPayloadV35 payload
  | .dev22 base, payload, cipher => base.decryptPayload payload cipher

def requiresSessionKey : TuyaProtocol → Bool
  | .v31 | .v32 | .v33 => false
  | .v34 | .v35 => true
  | .dev22 base => base.requiresSessionKey

def getPrefix : TuyaProtocol → UInt32
  | .v31 | .v32 | .v33 | .v34 => prefix55aa
  | .v35 => prefix6699
  | .dev22 base => base.getPrefix

def getHmacKey : TuyaProtocol → Bytes → Option Bytes
  | .v31, _ | .v32, _ | .v33, _ => none
  | .v34, cipherKey | .v35, cipherKey => some cipherKey
  | .dev22 base, cipherKey => base.getHmacKey cipherKey

def shouldCheckDev22Fallback : TuyaProtocol → Bool
  | .v33 | .v34 => true
  | .v31 | .v32 | .v35 | .dev22 _ => false

/-- The wrapper renames one command and ignores the renaming of its base. -/
def getEffectiveCommand : TuyaProtocol → CommandType → UInt32
  | .v34, .control | .v35, .control => CommandType.controlNew.code
  | .v34, .dpQuery | .v35, .dpQuery => CommandType.dpQueryNew.code
  | .dev22 _, .dpQuery => CommandType.controlNew.code
  | _, command => command.code

end TuyaProtocol

end Protocol
