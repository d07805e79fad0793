import Rustuya.ConnectionTask

/-!
# The device at the other end

What the frames of the client are for: a device that holds the local key, speaks one version
and draws its own nonce reads them off the connection. It knows the command of a frame, so it
need not guess whether a payload has a header. The repository has no such program; this is
the partner that its messages are written for.
-/
namespace Peer

open CheckedExecution ByteCodec BlockMode Error Crypto Message FrameSafety FrameRoundTrip
open Protocol PayloadRoundTrip SessionKey ConnectionTask

/-- What a message says, apart from how it is framed. -/
structure Letter where
  seqno : UInt32
  cmd : UInt32
  payload : Bytes
  deriving DecidableEq

def letterOf (msg : TuyaMessage) : Letter := ⟨msg.seqno, msg.cmd, msg.payload⟩

section Payload

variable (C : Crates)

def decrypted (cipher : TuyaCipher) (payload : Bytes) : Option Bytes :=
  match cipher.decrypt C payload false none none with
  | .ok plain => some plain
  | .err _ | .panic => none

/-- The payload behind the header that this command has to have, or else all of it. -/
def unheaded (version : Version) (cmd : UInt32) (payload : Bytes) : Option Bytes :=
  if cmd ∉ noProtocolHeaderCmds then
    if hasVersionHeader version payload then some (payload.drop 15) else none
  else some payload

def signature (cipher : TuyaCipher) (b64 : Bytes) : Bytes :=
  ((hexEncode (C.md5 (utf8 "data=" ++ b64 ++ utf8 "||lpv=3.1||" ++ cipher.key.val)).val).take
    24).drop 8

def openPayloadV31 (payload : Bytes) (cmd : UInt32) (cipher : TuyaCipher) : Option Bytes :=
  if cmd = CommandType.control.code ∨ cmd = CommandType.controlNew.code then
    let b64 := payload.drop 19
    if payload.take 19 = utf8 "3.1" ++ signature C cipher b64 then
      (C.base64Decode b64).bind (decrypted C cipher)
    else none
  else some payload

def openPayload : TuyaProtocol → Bytes → UInt32 → TuyaCipher → Option Bytes
  | .v31, payload, cmd, cipher => openPayloadV31 C payload cmd cipher
  | .v32, payload, cmd, cipher => (unheaded .v32 cmd payload).bind (decrypted C cipher)
  | .v33, payload, cmd, cipher => (unheaded .v33 cmd payload).bind (decrypted C cipher)
  | .v34, payload, cmd, cipher => (decrypted C cipher payload).bind (unheaded .v34 cmd)
  | .v35, payload, cmd, _ => unheaded .v35 cmd payload
  | .dev22 base, payload, cmd, cipher => openPayload base payload cmd cipher

variable {C}

theorem decrypted_sealed (hB : C.BlockLaw) (cipher : TuyaCipher) (payload : Bytes) :
    decrypted C cipher (sealed C cipher payload) = some payload := by
  rw [decrypted, decrypt_sealed cipher hB]

theorem unheaded_headed {v : Version} (h : Headed v) (cmd : UInt32) (payload : Bytes) :
    unheaded v cmd
      (if cmd ∉ noProtocolHeaderCmds then addProtocolHeader v payload else payload)
      = some payload := by
  unfold unheaded
  by_cases hcmd : cmd ∉ noProtocolHeaderCmds
  · have hlen := length_asBytes h
    have hhead : hasVersionHeader v (addProtocolHeader v payload) = true := by
      have htake : (addProtocolHeader v payload).take 3 = v.asBytes := by
        rw [addProtocolHeader, List.append_assoc, List.take_left' hlen]
      have h15 : 15 ≤ (addProtocolHeader v payload).length := by
        simp [addProtocolHeader, hlen]
        omega
      rw [hasVersionHeader, htake, beq_self_eq_true, decide_eq_true h15, Bool.and_self]
    rw [if_pos hcmd, if_pos hcmd, if_pos hhead, addProtocolHeader,
      List.drop_left' (by simp [hlen])]
  · rw [if_neg hcmd, if_neg hcmd]

theorem length_hexDigest (cipher : TuyaCipher) (b64 : Bytes) :
    (hexEncode (C.md5 (utf8 "data=" ++ b64 ++ utf8 "||lpv=3.1||" ++ cipher.key.val)).val).length
      = 32 := by
  rw [length_hexEncode, (C.md5 _).property]

theorem length_signature (cipher : TuyaCipher) (b64 : Bytes) :
    (utf8 "3.1" ++ signature C cipher b64).length = 19 := by
  rw [List.length_append, signature, List.length_drop, List.length_take, length_hexDigest]
  rfl

theorem packPayloadV31_eq (payload : Bytes) (cmd : UInt32) (cipher : TuyaCipher) :
    packPayloadV31 C payload cmd cipher = .ok
      (if cmd = CommandType.control.code ∨ cmd = CommandType.controlNew.code then
        let b64 := C.base64Encode (sealed C cipher payload)
        utf8 "3.1" ++ signature C cipher b64 ++ b64
      else payload) := by
  unfold packPayloadV31
  split
  · set b64 := C.base64Encode (sealed C cipher payload) with hb64
    have hhex := length_hexDigest (C := C) cipher b64
    have hslice : (slice (hexEncode (C.md5 (utf8 "data=" ++ b64 ++ utf8 "||lpv=3.1||" ++
        cipher.key.val)).val) 8 24 : Result Bytes) = .ok (signature C cipher b64) :=
      slice_of_le (by omega) (by omega) (by decide)
    rw [encrypt_padded, Outcome.ok_bind]
    change (slice _ 8 24 >>= fun _ => _) = _
    rw [show ecb (C.aesEncryptBlock cipher.key) (pad payload) = sealed C cipher payload from rfl,
      ← hb64, hslice, Outcome.ok_bind]
  · rfl

theorem openPayloadV31_pack (hB : C.BlockLaw) (h64 : C.Base64Law) {cipher : TuyaCipher}
    {payload packed : Bytes} {cmd : UInt32}
    (h : packPayloadV31 C payload cmd cipher = .ok packed) :
    openPayloadV31 C packed cmd cipher = some payload := by
  rw [packPayloadV31_eq] at h
  obtain rfl := Outcome.ok.inj h
  unfold openPayloadV31
  by_cases hcmd : cmd = CommandType.control.code ∨ cmd = CommandType.controlNew.code
  · have hlen := length_signature (C := C) cipher (C.base64Encode (sealed C cipher payload))
    simp only [if_pos hcmd]
    rw [List.drop_left' hlen, List.take_left' hlen, if_pos rfl, (h64 _).1, Option.bind_some,
      decrypted_sealed hB]
  · rw [if_neg hcmd, if_neg hcmd]

theorem packPayloadOuter_eq (version : Version) (payload : Bytes) (cmd : UInt32)
    (cipher : TuyaCipher) :
    packPayloadOuter C version payload cmd cipher = .ok
      (if cmd ∉ noProtocolHeaderCmds then addProtocolHeader version (sealed C cipher payload)
        else sealed C cipher payload) := by
  rw [packPayloadOuter, encrypt_padded, Outcome.ok_bind]
  split <;> rfl

theorem openPayload_pack (hB : C.BlockLaw) (h64 : C.Base64Law) {cipher : TuyaCipher}
    {payload packed : Bytes} {cmd : UInt32} {protocol : TuyaProtocol}
    (h : protocol.packPayload C payload cmd cipher = .ok packed) :
    openPayload C protocol packed cmd cipher = some payload := by
  induction protocol with
  | v31 => exact openPayloadV31_pack hB h64 h
  | v32 =>
    obtain rfl := Outcome.ok.inj ((packPayloadOuter_eq .v32 payload cmd cipher).symm.trans h)
    rw [openPayload, unheaded_headed (v := .v32) trivial, Option.bind_some,
      decrypted_sealed hB]
  | v33 =>
    obtain rfl := Outcome.ok.inj ((packPayloadOuter_eq .v33 payload cmd cipher).symm.trans h)
    rw [openPayload, unheaded_headed (v := .v33) trivial, Option.bind_some,
      decrypted_sealed hB]
  | v34 =>
    have hpacked : packed = sealed C cipher (if cmd ∉ noProtocolHeaderCmds then
        addProtocolHeader .v34 payload else payload) := (Outcome.ok.inj h).symm
    rw [openPayload, hpacked, decrypted_sealed hB, Option.bind_some,
      unheaded_headed (v := .v34) trivial]
  | v35 =>
    obtain rfl := Outcome.ok.inj h
    exact unheaded_headed (v := .v35) trivial cmd payload
  | dev22 base ih => exact ih h

end Payload

section Frames

variable (C : Crates)

def frameLength (bytes : Bytes) : Option Nat :=
  match parseHeader .release bytes with
  | .ok header => some header.totalLength.toNat
  | .err _ | .panic => none

def openFrame (protocol : TuyaProtocol) (key : Key) (frame : Bytes) : Option Letter :=
  match unpackMessage C .release frame (protocol.getHmacKey key.val) none (some true) with
  | .ok msg =>
    (openPayload C protocol msg.payload msg.cmd ⟨key⟩).map fun payload =>
      ⟨msg.seqno, msg.cmd, payload⟩
  | .err _ | .panic => none

theorem frameLength_append {xs : Bytes} {n : Nat} (h : frameLength xs = some n) (ys : Bytes) :
    frameLength (xs ++ ys) = some n := by
  have hfield : ∀ i, i + 4 ≤ xs.length → readU32 ((xs ++ ys).drop i) = readU32 (xs.drop i) := by
    intro i hi
    rw [List.drop_append_of_le_length (by omega)]
    exact readU32_append (by rw [List.length_drop]; omega) ys
  have hlen : (xs ++ ys).length = xs.length + ys.length := List.length_append
  unfold frameLength at h ⊢
  by_cases h16 : xs.length < 16
  · rw [parseHeader_short .release h16] at h
    cases h
  · have hword : readU32 (xs ++ ys) = readU32 xs := readU32_append (by omega) ys
    by_cases h55 : readU32 xs = prefix55aa
    · rw [parseHeader_55aa_eq .release (by omega) h55] at h
      rw [parseHeader_55aa_eq .release (by omega) (hword.trans h55), lengthField,
        hfield _ (by omega), hfield _ (by omega), hfield _ (by omega)]
      exact h
    · by_cases h66 : readU32 xs = prefix6699
      · by_cases h18 : xs.length < 18
        · rw [parseHeader_6699_short .release (by omega) h18 h66] at h
          cases h
        · rw [parseHeader_6699_eq .release (by omega) h66] at h
          rw [parseHeader_6699_eq .release (by omega) (hword.trans h66), lengthField,
            hfield _ (by omega), hfield _ (by omega), hfield _ (by omega)]
          exact h
      · rw [parseHeader_other .release (by omega) h55 h66] at h
        cases h

/-- The start of a frame is not taken for a shorter frame. -/
theorem frameLength_take {xs : Bytes} {n m : Nat} (h : frameLength xs = some n) {k : Nat}
    (hm : frameLength (xs.take k) = some m) : m = n := by
  have hall := frameLength_append hm (xs.drop k)
  rw [List.take_append_drop, h] at hall
  exact (Option.some.inj hall).symm

/-- The length of the payload leaves room for header, padding and checksum in 32 bits. -/
def Fits (payload : Bytes) : Prop := 2 * payload.length + 256 < 2 ^ 32

instance (payload : Bytes) : Decidable (Fits payload) := inferInstanceAs (Decidable (_ < _))

variable {C} {build : Build}

theorem packPayload_length (h64 : C.Base64Law) {protocol : TuyaProtocol} {cipher : TuyaCipher}
    {payload packed : Bytes} {cmd : UInt32}
    (h : protocol.packPayload C payload cmd cipher = .ok packed) :
    packed.length ≤ 2 * payload.length + 128 := by
  have hsealed : ∀ data, (sealed C cipher data).length = (data.length / 16 + 1) * 16 :=
    length_encrypt_padded cipher
  have hheaded : ∀ {v : Version}, Headed v → ∀ data : Bytes,
      (if cmd ∉ noProtocolHeaderCmds then addProtocolHeader v data else data).length
        ≤ data.length + 15 := by
    intro v hv data
    split
    · simp [addProtocolHeader, length_asBytes hv]
      omega
    · omega
  induction protocol with
  | v31 =>
    obtain rfl := Outcome.ok.inj ((packPayloadV31_eq payload cmd cipher).symm.trans h)
    have hsigned := length_signature (C := C) cipher (C.base64Encode (sealed C cipher payload))
    split
    · dsimp only
      rw [List.length_append, hsigned, (h64 _).2, hsealed]
      omega
    · omega
  | v32 =>
    obtain rfl := Outcome.ok.inj ((packPayloadOuter_eq .v32 payload cmd cipher).symm.trans h)
    have hlen := hheaded (v := .v32) trivial (sealed C cipher payload)
    rw [hsealed] at hlen
    omega
  | v33 =>
    obtain rfl := Outcome.ok.inj ((packPayloadOuter_eq .v33 payload cmd cipher).symm.trans h)
    have hlen := hheaded (v := .v33) trivial (sealed C cipher payload)
    rw [hsealed] at hlen
    omega
  | v34 =>
    have hpacked : packed = sealed C cipher (if cmd ∉ noProtocolHeaderCmds then
        addProtocolHeader .v34 payload else payload) := (Outcome.ok.inj h).symm
    have hlen := hheaded (v := .v34) trivial payload
    rw [hpacked, hsealed]
    omega
  | v35 =>
    obtain rfl := Outcome.ok.inj h
    have hlen := hheaded (v := .v35) trivial payload
    omega
  | dev22 base ih => exact ih h

/-- What the device finds in a frame: its length, and the message before its payload is
opened. -/
def Carries (C : Crates) (hmacKey : Option Bytes) (seqno cmd : UInt32) (packed bytes : Bytes) :
    Prop :=
  (∃ msg, unpackMessage C .release bytes hmacKey none (some true) = .ok msg ∧
    msg.seqno = seqno ∧ msg.cmd = cmd ∧ msg.payload = packed) ∧
  frameLength bytes = some bytes.length

theorem carries_55aa {seqno cmd : UInt32} {packed bytes : Bytes} {hmacKey : Option Bytes}
    (hfit : packed.length + 64 < 2 ^ 32)
    (h : pack55aa C build ⟨seqno, cmd, none, packed, prefix55aa, none⟩ hmacKey = .ok bytes) :
    Carries C hmacKey seqno cmd packed bytes := by
  have hend := endLen_le hmacKey
  have hroom : packed.length + 16 + endLen hmacKey < 2 ^ 32 := by omega
  rw [pack55aa_eq C build seqno cmd none hroom] at h
  obtain rfl := Outcome.ok.inj h
  constructor
  · have hread := unpack_frame55aa C .release seqno cmd [] hroom (some true)
    dsimp only at hread
    rw [List.append_nil] at hread
    exact ⟨_, hread, rfl, rfl, rfl⟩
  · set len := UInt32.ofNat (packed.length + endLen hmacKey) with hlen
    have hn : len.toNat = packed.length + endLen hmacKey := by
      rw [hlen, UInt32.toNat_ofNat', Nat.mod_eq_of_lt (by omega)]
    have hfoot := length_footer55aa C hmacKey (header55aa seqno cmd len ++ packed)
    obtain ⟨h16, h55, -, -, hfield⟩ := fields55aa seqno cmd len (packed ++
      (footer55aa C hmacKey (header55aa seqno cmd len ++ packed) ++ writeU32 suffix55aa))
    rw [List.append_assoc, frameLength,
      parseHeader_55aa .release h16 h55 (by rw [hfield, hn]; omega), hfield]
    dsimp only
    rw [toNat_add_16 (by omega), hn]
    simp only [List.length_append, length_header55aa, length_writeU32]
    exact congrArg some (by omega)

theorem carries_6699 (hG : C.GcmLaw) {seqno cmd : UInt32} {packed bytes : Bytes} {key : Key}
    {iv : U8Array 12} (hfit : packed.length + 64 < 2 ^ 32)
    (h : pack6699 C iv ⟨seqno, cmd, none, packed, prefix6699, none⟩ (some key.val) = .ok bytes) :
    Carries C (some key.val) seqno cmd packed bytes := by
  have hroom : (retcodeBytes none ++ packed).length + 50 < 2 ^ 32 := by
    simp only [retcodeBytes, List.nil_append]
    omega
  obtain ⟨c, hc, hpack, hdec⟩ := pack6699_eq C hG seqno cmd key iv iv hroom
  -- A message without nonce is packed like one with the nonce that is drawn for it.
  have hdrawn : pack6699 C iv ⟨seqno, cmd, none, packed, prefix6699, none⟩ (some key.val)
      = pack6699 C iv ⟨seqno, cmd, none, packed, prefix6699, some iv.val⟩ (some key.val) := rfl
  rw [hdrawn, hpack] at h
  obtain rfl := Outcome.ok.inj h
  have hclen : c.length = packed.length + 16 := hc
  constructor
  · have hread := unpack_frame6699 C .release hc hroom rfl hdec (some true) []
    rw [List.append_nil] at hread
    exact ⟨_, hread, rfl, rfl, rfl⟩
  · set len := UInt32.ofNat (12 + c.length) with hlen
    have hn : len.toNat = 12 + c.length := by
      rw [hlen, UInt32.toNat_ofNat', Nat.mod_eq_of_lt (by omega)]
    obtain ⟨h18, h66, -, -, hfield⟩ :=
      fields6699 seqno cmd len (iv.val ++ (c ++ writeU32 suffix6699))
    have hiv := iv.property
    rw [frameLength, parseHeader_6699 .release h18 h66 (by rw [hfield, hn]; omega), hfield]
    dsimp only
    rw [toNat_add_22 (by omega), hn]
    simp only [List.length_append, length_header6699Bytes, length_writeU32, hiv]
    exact congrArg some (by omega)

theorem framing_cases (protocol : TuyaProtocol) :
    protocol.getPrefix = prefix55aa ∨
      protocol.getPrefix = prefix6699 ∧ ∀ key, protocol.getHmacKey key = some key := by
  induction protocol with
  | dev22 base ih => exact ih
  | v35 => exact .inr ⟨rfl, fun _ => rfl⟩
  | _ => exact .inl rfl

theorem openFrame_packWith (hB : C.BlockLaw) (hG : C.GcmLaw) (h64 : C.Base64Law)
    {iv : U8Array 12} {protocol : TuyaProtocol} {cipher : TuyaCipher} {msg : TuyaMessage}
    {bytes : Bytes} (hplain : msg.retcode = none ∧ msg.iv = none) (hfits : Fits msg.payload)
    (h : packWith C build iv protocol cipher msg = .ok bytes) :
    openFrame C protocol cipher.key bytes = some (letterOf msg) ∧
      frameLength bytes = some bytes.length := by
  obtain ⟨packed, hpacked, h⟩ := Outcome.bind_eq_ok h
  have hlen := packPayload_length h64 hpacked
  have hroom : packed.length + 64 < 2 ^ 32 := by
    unfold Fits at hfits
    omega
  have hcarries :
      Carries C (protocol.getHmacKey cipher.key.val) msg.seqno msg.cmd packed bytes := by
    rw [packMessage] at h
    obtain ⟨hretcode, hiv⟩ := hplain
    rcases framing_cases protocol with h55 | ⟨h66, hkey⟩
    · dsimp only at h
      rw [h55, if_pos rfl, hretcode, hiv] at h
      exact carries_55aa hroom h
    · dsimp only at h
      rw [h66, if_neg prefix_ne, if_pos rfl, hretcode, hiv, hkey] at h
      rw [hkey]
      exact carries_6699 hG hroom h
  obtain ⟨⟨read, hread, hseqno, hcmd, hpayload⟩, hlength⟩ := hcarries
  refine ⟨?_, hlength⟩
  rw [openFrame, hread]
  dsimp only
  rw [hpayload, hcmd, openPayload_pack hB h64 hpacked, Option.map_some, hseqno]
  rfl

end Frames

section Conversation

inductive Stage where
  | awaitStart
  | awaitFinish (clientNonce : Bytes)
  | established (key : Key)
  deriving DecidableEq

structure Party where
  protocol : TuyaProtocol
  localKey : Key
  nonce : U8Array 16

variable (C : Crates) (p : Party)

def Party.start : Stage :=
  if p.protocol.requiresSessionKey then .awaitStart else .established p.localKey

/-- The device reads one frame; a frame it cannot use ends the conversation. -/
def Party.receive : Stage → Bytes → Option (Stage × Letter)
  | .awaitStart, frame =>
    (openFrame C p.protocol p.localKey frame).bind fun letter =>
      if letter.cmd = CommandType.sessKeyNegStart.code ∧ letter.payload.length = 16 then
        some (.awaitFinish letter.payload, letter)
      else none
  | .awaitFinish clientNonce, frame =>
    (openFrame C p.protocol p.localKey frame).bind fun letter =>
      if letter.cmd = CommandType.sessKeyNegFinish.code ∧
          letter.payload = (C.hmacSha256 p.localKey.val p.nonce.val).val then
        match peerKey C p.protocol p.localKey.val clientNonce p.nonce.val with
        | .ok key => if h : key.length = 16 then some (.established ⟨key, h⟩, letter) else none
        | .err _ | .panic => none
      else none
  | .established key, frame =>
    (openFrame C p.protocol key frame).map fun letter => (.established key, letter)

theorem Party.receive_finish {clientNonce frame : Bytes} {letter : Letter} {key : Key}
    (hopen : openFrame C p.protocol p.localKey frame = some letter)
    (hcmd : letter.cmd = CommandType.sessKeyNegFinish.code)
    (hproof : letter.payload = (C.hmacSha256 p.localKey.val p.nonce.val).val)
    (hkey : peerKey C p.protocol p.localKey.val clientNonce p.nonce.val = .ok key.val) :
    p.receive C (.awaitFinish clientNonce) frame = some (.established key, letter) := by
  rw [Party.receive, hopen, Option.bind_some, if_pos ⟨hcmd, hproof⟩, hkey]
  exact dif_pos key.property

def Party.listen : Stage → List Bytes → Option (Stage × List Letter)
  | stage, [] => some (stage, [])
  | stage, frame :: frames =>
    (p.receive C stage frame).bind fun (stage', letter) =>
      (Party.listen stage' frames).map fun (last, letters) => (last, letter :: letters)

/-- The device takes frame after frame from what has arrived. A frame that is not there in
full is left where it is. -/
def Party.hear : Nat → Stage → Bytes → Stage × List Letter
  | 0, stage, _ => (stage, [])
  | fuel + 1, stage, bytes =>
    match frameLength bytes with
    | some n =>
      if n ≤ bytes.length then
        match p.receive C stage (bytes.take n) with
        | some (stage', letter) =>
          let (last, letters) := Party.hear fuel stage' (bytes.drop n)
          (last, letter :: letters)
        | none => (stage, [])
      else (stage, [])
    | none => (stage, [])

def Party.hears (bytes : Bytes) : Stage × List Letter := p.hear C (bytes.length + 1) p.start bytes

variable {C p}

theorem listen_append {stage mid last : Stage} {frames more : List Bytes}
    {letters more' : List Letter} (h : p.listen C stage frames = some (mid, letters))
    (hmore : p.listen C mid more = some (last, more')) :
    p.listen C stage (frames ++ more) = some (last, letters ++ more') := by
  induction frames generalizing stage letters with
  | nil =>
    cases h
    exact hmore
  | cons frame frames ih =>
    obtain ⟨⟨stage', letter⟩, hreceive, h⟩ := Option.bind_eq_some_iff.mp h
    obtain ⟨⟨mid', letters'⟩, hlisten, h⟩ := Option.map_eq_some_iff.mp h
    cases h
    rw [List.cons_append, Party.listen, hreceive, Option.bind_some]
    dsimp only
    rw [ih hlisten]
    rfl

theorem listen_singleton {stage last : Stage} {frame : Bytes} {letter : Letter}
    (h : p.receive C stage frame = some (last, letter)) :
    p.listen C stage [frame] = some (last, [letter]) := by
  rw [Party.listen, h]
  rfl

/-- The start of a frame that is still being written. -/
def Unfinished (bytes : Bytes) : Prop := ∀ n, frameLength bytes = some n → bytes.length < n

theorem unfinished_take {frame : Bytes} (h : frameLength frame = some frame.length) {k : Nat}
    (hk : k < frame.length) : Unfinished (frame.take k) := by
  intro n hn
  rw [frameLength_take h hn, List.length_take]
  omega

theorem unfinished_nil : Unfinished [] := by
  intro n hn
  cases hn

theorem hear_flatten {frames : List Bytes} (hsized : ∀ f ∈ frames, frameLength f = some f.length)
    {tail : Bytes} (htail : Unfinished tail) {stage last : Stage} {letters : List Letter}
    (h : p.listen C stage frames = some (last, letters)) {fuel : Nat}
    (hfuel : frames.length < fuel) :
    p.hear C fuel stage (frames.flatten ++ tail) = (last, letters) := by
  induction frames generalizing stage letters fuel with
  | nil =>
    cases h
    obtain ⟨fuel, rfl⟩ := Nat.exists_eq_succ_of_ne_zero (Nat.ne_of_gt hfuel)
    rw [List.flatten_nil, List.nil_append, Party.hear]
    split
    next n hn =>
      have hlong := htail n hn
      rw [if_neg (by omega)]
    · rfl
  | cons frame frames ih =>
    obtain ⟨⟨stage', letter⟩, hreceive, h⟩ := Option.bind_eq_some_iff.mp h
    obtain ⟨⟨mid', letters'⟩, hlisten, h⟩ := Option.map_eq_some_iff.mp h
    cases h
    obtain ⟨fuel, rfl⟩ := Nat.exists_eq_succ_of_ne_zero (Nat.ne_of_gt (Nat.zero_lt_of_lt hfuel))
    have hframe := hsized frame (List.mem_cons_self ..)
    have hrest := ih (fun f hf => hsized f (List.mem_cons_of_mem _ hf)) hlisten
      (Nat.lt_of_succ_lt_succ hfuel)
    rw [List.flatten_cons, List.append_assoc, Party.hear, frameLength_append hframe]
    dsimp only
    rw [if_pos (by rw [List.length_append]; omega), List.take_left' rfl, hreceive,
      List.drop_left' rfl]
    dsimp only
    rw [hrest]

theorem length_pos_of_sized {frame : Bytes} (h : frameLength frame = some frame.length) :
    0 < frame.length := by
  cases frame with
  | nil => cases h
  | cons b rest => exact Nat.zero_lt_succ _

theorem length_le_flatten {frames : List Bytes}
    (hsized : ∀ f ∈ frames, frameLength f = some f.length) :
    frames.length ≤ frames.flatten.length := by
  induction frames with
  | nil => exact Nat.le_refl _
  | cons frame frames ih =>
    have hpos := length_pos_of_sized (hsized frame (List.mem_cons_self ..))
    have hrest := ih fun f hf => hsized f (List.mem_cons_of_mem _ hf)
    rw [List.flatten_cons, List.length_append, List.length_cons]
    omega

end Conversation

end Peer
