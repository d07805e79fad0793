import Rustuya.Crypto

/-!
# Messages and their frames

The two frame layouts of the wire protocol. A 55AA frame has a 16-byte header and
ends in a checksum and a suffix, both counted by the length field. A 6699 frame has
an 18-byte header and an authenticated ciphertext; its suffix is not counted.
-/
namespace Message

open CheckedExecution ByteCodec Error Crypto

def prefix55aa : UInt32 := 0x000055AA
def prefix6699 : UInt32 := 0x00006699
def suffix55aa : UInt32 := 0x0000AA55
def suffix6699 : UInt32 := 0x00009966

structure TuyaMessage where
  seqno : UInt32
  cmd : UInt32
  retcode : Option UInt32
  payload : Bytes
  msgPrefix : UInt32
  iv : Option Bytes
  deriving DecidableEq

structure TuyaHeader where
  msgPrefix : UInt32
  seqno : UInt32
  cmd : UInt32
  payloadLen : UInt32
  totalLength : UInt32
  deriving DecidableEq

def TuyaMessage.default : TuyaMessage :=
  { seqno := 0, cmd := 0, retcode := none, payload := [], msgPrefix := prefix55aa, iv := none }

section Pack

variable (C : Crates) (build : Build)

def pack55aa (msg : TuyaMessage) (hmacKey : Option Bytes) : Result Bytes := do
  let suffixLen : UInt32 := if hmacKey.isSome then 32 + 4 else 4 + 4
  let payloadLen ← addU32 build (UInt32.ofNat msg.payload.length) suffixLen
  let data := writeU32 msg.msgPrefix ++ writeU32 msg.seqno ++ writeU32 msg.cmd ++
    writeU32 payloadLen ++ msg.payload
  let footer := match hmacKey with
    | some key => (C.hmacSha256 key data).val
    | none => writeU32 (C.crc32 data)
  .ok (data ++ footer ++ writeU32 suffix55aa)

def retcodeBytes : Option UInt32 → Bytes
  | some rc => writeU32 rc
  | none => []

def header6699 (msg : TuyaMessage) (totalPayloadLen : Nat) : Bytes :=
  writeU32 prefix6699 ++ writeU16 0 ++ writeU32 msg.seqno ++ writeU32 msg.cmd ++
    writeU32 (UInt32.ofNat totalPayloadLen)

/-- A message without nonce is encrypted under one drawn at random. -/
def pack6699 (randomIv : U8Array 12) (msg : TuyaMessage) (hmacKey : Option Bytes) :
    Result Bytes := do
  let key ← Outcome.okOr .encryptionFailed hmacKey
  let raw := retcodeBytes msg.retcode ++ msg.payload
  let totalPayloadLen := 12 + raw.length + 16
  let headerBytes := header6699 msg totalPayloadLen
  let iv := msg.iv.getD randomIv.val
  let cipher ← TuyaCipher.new key
  let aad ← sliceFrom headerBytes 4
  let encrypted ← cipher.encrypt C raw false (some iv) (some aad) false
  .ok (headerBytes ++ encrypted ++ writeU32 suffix6699)

/-- A message with any other prefix is packed into the empty string. -/
def packMessage (randomIv : U8Array 12) (msg : TuyaMessage) (hmacKey : Option Bytes) :
    Result Bytes :=
  if msg.msgPrefix = prefix55aa then pack55aa C build msg hmacKey
  else if msg.msgPrefix = prefix6699 then pack6699 C randomIv msg hmacKey
  else .ok []

end Pack

section Unpack

def cursorU32 (cursor : Bytes) : Result (UInt32 × Bytes) :=
  if 4 ≤ cursor.length then .ok (readU32 cursor, cursor.drop 4)
  else .err (.io "failed to fill whole buffer")

def cursorU16 (cursor : Bytes) : Result Bytes :=
  if 2 ≤ cursor.length then .ok (cursor.drop 2)
  else .err (.io "failed to fill whole buffer")

variable (C : Crates) (build : Build)

def parseHeader (data : Bytes) : Result TuyaHeader :=
  if data.length < 16 then .err (.decodeError "Header too short")
  else do
    let (msgPrefix, cursor) ← cursorU32 data
    if msgPrefix = prefix55aa then do
      let (seqno, cursor) ← cursorU32 cursor
      let (cmd, cursor) ← cursorU32 cursor
      let (payloadLen, _) ← cursorU32 cursor
      let totalLength ← addU32 build payloadLen 16
      .ok { msgPrefix, seqno, cmd, payloadLen, totalLength }
    else if msgPrefix = prefix6699 then
      if data.length < 18 then .err (.decodeError "6699 header too short")
      else do
        let cursor ← cursorU16 cursor
        let (seqno, cursor) ← cursorU32 cursor
        let (cmd, cursor) ← cursorU32 cursor
        let (payloadLen, _) ← cursorU32 cursor
        let withHeader ← addU32 build payloadLen 18
        let totalLength ← addU32 build withHeader 4
        .ok { msgPrefix, seqno, cmd, payloadLen, totalLength }
    else .err .invalidHeader

/-- Whether the body between `start` and `stop` begins with a return code. The bytes
`0x7b` and `0x33` open a JSON text and a version header. -/
def shouldParseRetcode55aa (data : Bytes) (start stop : Nat) : Option Bool → Result Bool
  | some no => .ok (!no)
  | none => do
    let len ← subUsize build stop start
    if 4 ≤ len then do
      let first ← index data start
      .ok (first != 0x7b && (first == 0 || (decide (4 < len) && first != 0x33)))
    else .ok false

def shouldParseRetcode6699 (payload : Bytes) : Option Bool → Result Bool
  | some no => .ok (!no)
  | none =>
    if 4 ≤ payload.length then do
      let first ← index payload 0
      if first != 0x7b && decide (4 < payload.length) then do
        let fifth ← index payload 4
        .ok (fifth == 0x7b || fifth == 0x33)
      else .ok false
    else .ok false

def checkFooter (hmacKey : Option Bytes) (checksumData footer : Bytes) : Result Unit :=
  match hmacKey with
  | some key => do
    let received ← slice footer 0 32
    if (C.hmacSha256 key checksumData).val ≠ received then .err .hmacMismatch else .ok ()
  | none => do
    let received ← slice footer 0 4
    if C.crc32 checksumData ≠ readU32 received then .err .crcMismatch else .ok ()

def unpack55aa (data : Bytes) (hmacKey : Option Bytes) (header : TuyaHeader)
    (noRetcode : Option Bool) : Result TuyaMessage := do
  let headerLen := 16
  let endLen := if hmacKey.isSome then 32 + 4 else 4 + 4
  let msgLen := header.totalLength.toNat
  let payloadEnd ← subUsize build msgLen endLen
  if payloadEnd < headerLen then
    .err (.decodeError s!"Payload end ({payloadEnd}) is before header end ({headerLen})")
  else do
    let parse ← shouldParseRetcode55aa build data headerLen payloadEnd noRetcode
    let bodyLen ← subUsize build payloadEnd headerLen
    let (retcode, payloadStart) ←
      if parse && decide (4 ≤ bodyLen) then do
        let word ← slice data headerLen (headerLen + 4)
        .ok (some (readU32 word), headerLen + 4)
      else .ok (none, headerLen)
    let payload ← slice data payloadStart payloadEnd
    let checksumData ← slice data 0 payloadEnd
    let footer ← slice data payloadEnd msgLen
    checkFooter C hmacKey checksumData footer
    .ok { seqno := header.seqno, cmd := header.cmd, retcode, payload,
          msgPrefix := header.msgPrefix, iv := none }

def unpack6699 (data : Bytes) (hmacKey : Option Bytes) (header : TuyaHeader)
    (noRetcode : Option Bool) : Result TuyaMessage := do
  let key ← Outcome.okOr .encryptionFailed hmacKey
  let msgLen := header.totalLength.toNat
  let stop ← subUsize build msgLen 4
  let payloadWithIvTag ← slice data 18 stop
  if payloadWithIvTag.length < 12 + 16 then .err .invalidPayload
  else do
    let iv ← slice payloadWithIvTag 0 12
    let ciphertextWithTag ← sliceFrom payloadWithIvTag 12
    let cipher ← TuyaCipher.new key
    let headerBytes ← slice data 4 18
    let decrypted ← cipher.decrypt C ciphertextWithTag false (some iv) (some headerBytes)
    let parse ← shouldParseRetcode6699 decrypted noRetcode
    let (retcode, payload) ←
      if parse && decide (4 ≤ decrypted.length) then do
        let word ← slice decrypted 0 4
        let rest ← sliceFrom decrypted 4
        .ok (some (readU32 word), rest)
      else .ok (none, decrypted)
    .ok { seqno := header.seqno, cmd := header.cmd, retcode, payload,
          msgPrefix := header.msgPrefix, iv := some iv }

def unpackMessage (data : Bytes) (hmacKey : Option Bytes) (header : Option TuyaHeader)
    (noRetcode : Option Bool) : Result TuyaMessage := do
  let header ← match header with
    | some h => .ok h
    | none => parseHeader build data
  if data.length < header.totalLength.toNat then
    .err (.decodeError "Data shorter than expected")
  else if header.msgPrefix = prefix55aa then unpack55aa C build data hmacKey header noRetcode
  else if header.msgPrefix = prefix6699 then unpack6699 C build data hmacKey header noRetcode
  else .err .invalidHeader

end Unpack

end Message
