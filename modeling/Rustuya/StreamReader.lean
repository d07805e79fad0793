import Rustuya.DeviceState
import Mathlib.Data.List.Infix

/-!
# Reading messages from a connection

The byte stream is what the peer sends before it goes silent, closes the connection or
fails. The reader looks for one of the two frame prefixes, reads the frame the header
announces, decodes it and hands one message to the listeners.
-/
namespace StreamReader

open CheckedExecution StatefulExecution ByteCodec Error Crypto Message Protocol Json DeviceState

inductive StreamEnd where
  | eof
  | silent
  | failed (text : String)
  deriving DecidableEq, Repr

structure Stream where
  bytes : Bytes
  ending : StreamEnd
  deriving DecidableEq

structure Reader where
  device : State
  stream : Stream
  broadcast : List TuyaMessage
  deriving DecidableEq

abbrev ReadM := Program Reader TuyaError

def Reader.withDevice (r : Reader) (device : State) : Reader := { r with device }

def onDevice {α : Type} : Program State TuyaError α → ReadM α :=
  Program.zoom Reader.device fun device r => r.withDevice device

def Reader.rest (r : Reader) (bytes : Bytes) : Reader :=
  { r with stream := { r.stream with bytes } }

def StreamEnd.error (eofText : String) : StreamEnd → TuyaError
  | .eof => .io eofText
  | .silent => .timeout
  | .failed text => .io text

def readU8 : ReadM UInt8 where
  run r := match r.stream.bytes with
    | b :: rest => (.ok b, r.rest rest)
    | [] => (.err (r.stream.ending.error "unexpected end of file"), r)

/-- A read that fails has consumed what was there. -/
def readExact (n : Nat) : ReadM Bytes where
  run r :=
    if n ≤ r.stream.bytes.length then
      (.ok (r.stream.bytes.take n), r.rest (r.stream.bytes.drop n))
    else (.err (r.stream.ending.error "early eof"), r.rest [])

section Reads

variable {r : Reader}

@[simp] theorem rest_bytes (bytes : Bytes) : (r.rest bytes).stream.bytes = bytes := rfl
@[simp] theorem rest_rest (xs ys : Bytes) : (r.rest xs).rest ys = r.rest ys := rfl
@[simp] theorem rest_device (bytes : Bytes) : (r.rest bytes).device = r.device := rfl

@[simp] theorem withDevice_device (device : State) : (r.withDevice device).device = device := rfl

theorem run_readU8 (b : UInt8) (bytes : Bytes) :
    readU8.run (r.rest (b :: bytes)) = (.ok b, r.rest bytes) := rfl

theorem run_readExact {n : Nat} {xs : Bytes} (h : xs.length = n) (ys : Bytes) :
    (readExact n).run (r.rest (xs ++ ys)) = (.ok xs, r.rest ys) := by
  have hn : n ≤ (xs ++ ys).length := by rw [List.length_append]; omega
  simp only [readExact, rest_bytes, if_pos hn, List.take_left' h, List.drop_left' h, rest_rest]

end Reads

def shiftIn (window : UInt32) (b : UInt8) : UInt32 := (window <<< 8) ||| b.toUInt32

def scanWindow : Nat → UInt32 → ReadM (Option Bytes)
  | 0, _ => return none
  | n + 1, currentPrefix => do
    if currentPrefix = prefix55aa ∨ currentPrefix = prefix6699 then
      return some (writeU32 currentPrefix)
    else
      let nextByte ← readU8
      scanWindow n (shiftIn currentPrefix nextByte)

def scanPositions (n : Nat) (firstByte : UInt8) : ReadM (Option Bytes) := do
  let currentPrefix := firstByte.toUInt32
  let b1 ← readU8
  let currentPrefix := shiftIn currentPrefix b1
  let b2 ← readU8
  let currentPrefix := shiftIn currentPrefix b2
  let b3 ← readU8
  let currentPrefix := shiftIn currentPrefix b3
  scanWindow n currentPrefix

def scanForPrefix (firstByte : UInt8) : ReadM (Option Bytes) := scanPositions 1024 firstByte

section Packet

variable (C : Crates) (S : Codec) (build : Build) (device : Device)

def completeHeader (headerBuf : Bytes) : ReadM Bytes :=
  if readU32 headerBuf = prefix6699 then do
    let extra ← readExact 2
    return headerBuf ++ extra
  else return headerBuf

def readFullPacket (headerBuf : Bytes) : ReadM (Bytes × TuyaHeader) := do
  let packet ← completeHeader headerBuf
  let header ← Program.lift (parseHeader build packet)
  let totalLen := header.totalLength.toNat
  let headerLen := packet.length
  -- The buffer is resized first: a total length below the header length truncates it,
  -- and taking the part after the header is then out of range.
  if totalLen < headerLen then Program.lift .panic
  else do
    let body ← readExact (totalLen - headerLen)
    return (packet ++ body, header)

/-- A frame without valid HMAC is accepted once under its CRC, when the device type is
still to be detected. -/
def unpackAndCheckDev22 (packet : Bytes) (header : TuyaHeader) :
    Program State TuyaError TuyaMessage := do
  let (version, devType) ← Program.read fun s => (s.version, s.devType)
  let protocol := getProtocol version devType
  let cipher ← getCipher device
  let hmacKey := protocol.getHmacKey cipher.key.val
  Program.orElse (Program.lift (unpackMessage C build packet hmacKey (some header) (some false)))
    fun e =>
      if protocol.shouldCheckDev22Fallback && decide (devType = .auto) then
        match unpackMessage C build packet none (some header) (some false) with
        | .ok d => do
          setDevType .device22
          return d
        | .err _ => Program.fail e
        | .panic => Program.lift .panic
      else Program.fail e

def dataUnvalid : Bytes := utf8 "data unvalid"

def decryptAndCleanPayload (payload : Bytes) : Program State TuyaError Bytes := do
  let (version, originalDevType) ← Program.read fun s => (s.version, s.devType)
  let devType := if originalDevType = .auto then .default else originalDevType
  let cipher ← getCipher device
  let protocol := getProtocol version devType
  let decrypted ← Program.lift (protocol.decryptPayload C payload cipher)
  if protocol.shouldCheckDev22Fallback && decide (originalDevType = .auto) &&
      decide (dataUnvalid <:+: decrypted) then
    setDevType .device22
  return decrypted

def decodePacket (packet : Bytes) (header : TuyaHeader) : Program State TuyaError TuyaMessage := do
  let decoded ← unpackAndCheckDev22 C build device packet header
  if decoded.payload.isEmpty then return decoded
  else
    let payload ← decryptAndCleanPayload C device decoded.payload
    return { decoded with payload }

def parseAndReadBody (headerBuf : Bytes) : ReadM TuyaMessage := do
  let (packet, header) ← readFullPacket build headerBuf
  onDevice (decodePacket C build device packet header)

def hexText (data : Bytes) : String :=
  String.ofList ((hexEncode data).map (fun b => Char.ofNat b.toNat))

def originalPayload (msg : TuyaMessage) : Value :=
  if msg.payload.isEmpty then .null
  else (S.fromSlice msg.payload).getD (.object [(keyPayloadRaw, .string (hexText msg.payload))])

def readAndParseFromStream (firstByte : UInt8) : ReadM (Option TuyaMessage) := do
  match ← scanForPrefix firstByte with
  | none => return none
  | some framePrefix =>
    let rest ← readExact 12
    let devTypeBefore ← Program.read fun r => r.device.devType
    Program.orElse
      (do
        let msg ← parseAndReadBody C build device (framePrefix ++ rest)
        let r ← Program.read id
        if devTypeBefore ≠ .device22 ∧ r.device.devType = .device22 then
          return some (errorHelper S r.device errDevtype (some (originalPayload S msg)))
        else return some msg)
      fun e =>
        if e.isIo then Program.fail e
        else do
          let r ← Program.read id
          return some (errorHelper S r.device errPayload (some (.string e.display)))

def send (msg : TuyaMessage) : ReadM Unit :=
  Program.write fun r => { r with broadcast := r.broadcast ++ [msg] }

def broadcastError (code : Nat) (payload : Option Value) : ReadM Unit := do
  let r ← Program.read id
  send (errorHelper S r.device code payload)

def nonJsonPayload (msg : TuyaMessage) : Value :=
  .object [("cmd", Value.ofNat msg.cmd.toNat), (keyPayloadRaw, .string (hexText msg.payload))]

def processSocketData (firstByte : UInt8) : ReadM Unit := do
  match ← readAndParseFromStream C S build device firstByte with
  | none => return ()
  | some msg =>
    onDevice (resetFailureCount build)
    if msg.payload.isEmpty then send msg
    else if (S.fromSlice msg.payload).isNone then
      broadcastError S errJson (some (nonJsonPayload msg))
    else send msg

def StreamEnd.closing (packetsReceived : Int32) : StreamEnd → TuyaError
  | .eof => if 0 < packetsReceived then .io "Connection reset" else .keyOrVersionError
  | .silent => .timeout
  | .failed text => .io text

inductive ReaderExit where
  | reported (e : TuyaError)
  | panicked
  deriving DecidableEq, Repr

/-- The reader task. Every round consumes a byte, so a fuel above the number of bytes
never runs out. -/
def readerLoop : Nat → Int32 → Reader → Option ReaderExit × Reader
  | 0, _, r => (none, r)
  | fuel + 1, packetsReceived, r =>
    match r.stream.bytes with
    | [] => (some (.reported (r.stream.ending.closing packetsReceived)), r)
    | b :: rest =>
      match (processSocketData C S build device b).run (r.rest rest) with
      | (.err e, r) => (some (.reported e), r)
      | (.panic, r) => (some .panicked, r)
      | (.ok (), r) =>
        match (addI32 build packetsReceived 1 : Result Int32) with
        | .ok n => readerLoop fuel n r
        | .err e => (some (.reported e), r)
        | .panic => (some .panicked, r)

def readerTask (r : Reader) : Option ReaderExit × Reader :=
  readerLoop C S build device (r.stream.bytes.length + 1) 0 r

end Packet

section Untouched

/-- The state without what decoding a message may change: the detected device type and the
cached cipher. -/
def steady (s : State) : State := { s with devType := .auto, cipher := none }

/-- The state without what handling a message may change: also the counters. -/
def untouched (s : State) : State :=
  { s with devType := .auto, failureCount := 0, successCount := 0, cipher := none }

variable (C : Crates) (S : Codec) (build : Build) (device : Device)

theorem getCipher_steady : (getCipher device).Keeps steady := by
  intro s
  rw [run_getCipher]
  cases TuyaCipher.new (s.activeKey device) <;> rfl

theorem getCipher_keeps : (getCipher device).Keeps untouched :=
  (getCipher_steady device).comp untouched

theorem setDevType_steady (devType : DeviceType) : (setDevType devType).Keeps steady :=
  Program.keeps_write fun _ => rfl

theorem resetFailureCount_keeps {π : Type} {f : State → π}
    (hcounts : ∀ (s : State) failureCount successCount,
      f { s with failureCount, successCount } = f s) : (resetFailureCount build).Keeps f := by
  unfold resetFailureCount
  refine .bind (Program.keeps_read _) fun s => .bind (Program.keeps_lift _) fun n => ?_
  exact Program.keeps_ite (Program.keeps_write fun s => hcounts s 0 0)
    (Program.keeps_write fun s => hcounts s s.failureCount n)

theorem unpackAndCheckDev22_steady (packet : Bytes) (header : TuyaHeader) :
    (unpackAndCheckDev22 C build device packet header).Keeps steady := by
  unfold unpackAndCheckDev22
  refine .bind (Program.keeps_read _) fun settings => ?_
  refine .bind (getCipher_steady device) fun cipher => ?_
  refine .orElse (Program.keeps_lift _) fun e => Program.keeps_ite ?_ ?_
  · split
    · exact .bind (setDevType_steady _) fun _ => Program.keeps_pure _
    · exact Program.keeps_lift _
    · exact Program.keeps_lift _
  · exact Program.keeps_lift _

theorem decryptAndCleanPayload_steady (payload : Bytes) :
    (decryptAndCleanPayload C device payload).Keeps steady := by
  unfold decryptAndCleanPayload
  refine .bind (Program.keeps_read _) fun settings => ?_
  refine .bind (getCipher_steady device) fun cipher => ?_
  refine .bind (Program.keeps_lift _) fun decrypted => Program.keeps_ite ?_ ?_
  · exact .bind (setDevType_steady _) fun _ => Program.keeps_pure _
  · exact Program.keeps_pure _

theorem decodePacket_steady (packet : Bytes) (header : TuyaHeader) :
    (decodePacket C build device packet header).Keeps steady := by
  unfold decodePacket
  refine .bind (unpackAndCheckDev22_steady C build device packet header) fun decoded =>
    Program.keeps_ite ?_ ?_
  · exact Program.keeps_pure _
  · exact .bind (decryptAndCleanPayload_steady C device _) fun _ => Program.keeps_pure _

def Reader.aside (r : Reader) : State × List TuyaMessage := (r.device, r.broadcast)

theorem readU8_aside : readU8.Keeps Reader.aside := by
  intro r
  unfold readU8
  dsimp only
  split <;> rfl

theorem readExact_aside (n : Nat) : (readExact n).Keeps Reader.aside := by
  intro r
  unfold readExact
  dsimp only
  split <;> rfl

theorem scanWindow_aside (n : Nat) : ∀ currentPrefix,
    (scanWindow n currentPrefix).Keeps Reader.aside := by
  induction n with
  | zero => exact fun _ => Program.keeps_pure _
  | succ n ih =>
    intro currentPrefix
    exact Program.keeps_ite (Program.keeps_pure _) (.bind readU8_aside fun b => ih _)

theorem scanForPrefix_aside (firstByte : UInt8) :
    (scanForPrefix firstByte).Keeps Reader.aside :=
  .bind readU8_aside fun _ => .bind readU8_aside fun _ => .bind readU8_aside fun _ =>
    scanWindow_aside _ _

theorem readFullPacket_aside (headerBuf : Bytes) :
    (readFullPacket build headerBuf).Keeps Reader.aside := by
  have hheader : (completeHeader headerBuf).Keeps Reader.aside :=
    Program.keeps_ite (.bind (readExact_aside 2) fun _ => Program.keeps_pure _)
      (Program.keeps_pure _)
  unfold readFullPacket
  refine .bind hheader fun packet => .bind (Program.keeps_lift _) fun header =>
    Program.keeps_ite ?_ ?_
  · exact Program.keeps_lift _
  · exact .bind (readExact_aside _) fun _ => Program.keeps_pure _

theorem onDevice_keeps {α π : Type} {f : State → π} {x : Program State TuyaError α}
    (hx : x.Keeps f) : (onDevice x).Keeps fun r => f r.device :=
  hx.zoom (fun _ _ => rfl) fun _ => rfl

/-- Reading a message only does to what is beside the stream what decoding it does. -/
theorem readAndParseFromStream_aside {π : Type} (h : State × List TuyaMessage → π)
    (hdecode : ∀ packet header,
      (onDevice (decodePacket C build device packet header)).Keeps fun r => h r.aside)
    (firstByte : UInt8) :
    (readAndParseFromStream C S build device firstByte).Keeps fun r => h r.aside := by
  unfold readAndParseFromStream
  refine .bind ((scanForPrefix_aside firstByte).comp h) fun found => ?_
  cases found with
  | none => exact Program.keeps_pure _
  | some framePrefix =>
    refine .bind ((readExact_aside 12).comp h) fun rest =>
      .bind (Program.keeps_read _) fun devType => ?_
    refine .orElse ?_ fun e => ?_
    · have hbody : (parseAndReadBody C build device (framePrefix ++ rest)).Keeps
          fun r => h r.aside :=
        .bind ((readFullPacket_aside build _).comp h) fun _ => hdecode _ _
      exact .bind hbody fun msg => .bind (Program.keeps_read _) fun r =>
        Program.keeps_ite (Program.keeps_pure _) (Program.keeps_pure _)
    · exact Program.keeps_ite (Program.keeps_lift _)
        (.bind (Program.keeps_read _) fun _ => Program.keeps_pure _)

theorem readAndParseFromStream_steady (firstByte : UInt8) :
    (readAndParseFromStream C S build device firstByte).Keeps fun r => steady r.device :=
  readAndParseFromStream_aside C S build device (fun a => steady a.1)
    (fun _ _ => onDevice_keeps (decodePacket_steady C build device _ _)) firstByte

theorem readAndParseFromStream_keeps (firstByte : UInt8) :
    (readAndParseFromStream C S build device firstByte).Keeps fun r => untouched r.device :=
  (readAndParseFromStream_steady C S build device firstByte).comp untouched

theorem readAndParseFromStream_broadcast (firstByte : UInt8) :
    (readAndParseFromStream C S build device firstByte).Keeps Reader.broadcast :=
  readAndParseFromStream_aside C S build device Prod.snd (fun _ _ _ => rfl) firstByte

variable {C S build device} in
/-- The reader broadcasts the message that it has read, if this has no payload or a JSON
payload, and an error message with its bytes in the place of any other. -/
theorem mem_processSocketData {firstByte : UInt8} {s : State} {stream : Stream} {m : TuyaMessage}
    (hm : m ∈ ((processSocketData C S build device firstByte).run ⟨s, stream, []⟩).2.broadcast) :
    ∃ msg r, (readAndParseFromStream C S build device firstByte).run ⟨s, stream, []⟩
        = (.ok (some msg), r) ∧
      (m = msg ∧ (msg.payload = [] ∨ (S.fromSlice msg.payload).isSome = true) ∨
        S.fromSlice msg.payload = none ∧
          m = errorHelper S r.device errJson (some (nonJsonPayload msg))) := by
  unfold processSocketData at hm
  obtain ⟨found, r, hread, hempty, hm⟩ :=
    Program.mem_bind (readAndParseFromStream_broadcast C S build device firstByte) rfl hm
  cases found with
  | none =>
    change m ∈ r.broadcast at hm
    rw [hempty] at hm
    cases hm
  | some msg =>
    refine ⟨msg, r, hread, ?_⟩
    obtain ⟨_, t, hreset, hempty, hm⟩ := Program.mem_bind (fun _ => rfl) hempty hm
    have hprotocol : t.device.protocol = r.device.protocol := by
      have hkeeps := onDevice_keeps (resetFailureCount_keeps build (f := State.protocol)
        fun _ _ _ => rfl) r
      rw [hreset] at hkeeps
      exact hkeeps
    have hsent : ∀ {sent}, m ∈ ((send sent).run t).2.broadcast → m = sent := by
      intro sent hmem
      change m ∈ t.broadcast ++ [sent] at hmem
      rw [hempty] at hmem
      exact List.mem_singleton.mp hmem
    split at hm
    next hblank => exact .inl ⟨hsent hm, .inl (List.isEmpty_iff.mp hblank)⟩
    next =>
      split at hm
      next hjson =>
        refine .inr ⟨Option.isNone_iff_eq_none.mp hjson, (hsent hm).trans ?_⟩
        rw [errorHelper, errorHelper, id, hprotocol]
      next hjson =>
        refine .inl ⟨hsent hm, .inr ?_⟩
        exact Option.isSome_iff_ne_none.mpr fun hnone => hjson (Option.isNone_iff_eq_none.mpr hnone)

/-- A message that is read is counted, whatever it is; nothing else that the reader does with it
touches the device. -/
theorem processSocketData_device (firstByte : UInt8) (r : Reader) :
    ((processSocketData C S build device firstByte).run r).2.device =
      match (readAndParseFromStream C S build device firstByte).run r with
      | (.ok (some _), t) => ((resetFailureCount build).run t.device).2
      | (_, t) => t.device := by
  have hsend : ∀ msg, (send msg).Keeps Reader.device := fun _ => Program.keeps_write fun _ => rfl
  unfold processSocketData
  rcases hread : (readAndParseFromStream C S build device firstByte).run r with ⟨out, t⟩
  cases out with
  | err e => rw [Program.run_bind_err hread]
  | panic => rw [Program.run_bind_panic hread]
  | ok found =>
    rw [Program.run_bind_ok hread]
    cases found with
    | none => rfl
    | some msg =>
      refine Program.bind_keeps (f := Reader.device) (fun _ => ?_) t
      exact Program.keeps_ite (hsend msg)
        (Program.keeps_ite (.bind (Program.keeps_read _) fun _ => hsend _) (hsend msg))

theorem processSocketData_keeps (firstByte : UInt8) :
    (processSocketData C S build device firstByte).Keeps fun r => untouched r.device := by
  intro r
  have hread := readAndParseFromStream_keeps C S build device firstByte r
  dsimp only at hread ⊢
  rw [processSocketData_device]
  split
  next hrun =>
    rw [hrun] at hread
    exact (resetFailureCount_keeps build (fun _ _ _ => rfl) _).trans hread
  next hrun =>
    rw [hrun] at hread
    exact hread

end Untouched

end StreamReader
