import Rustuya.FrameRoundTrip
import Rustuya.PayloadRoundTrip

/-!
# Session key negotiation

The client sends a nonce, the device answers with its own nonce and a proof that it
holds the local key, and both derive the session key from the two nonces. The steps are
those of the protocol trait; `negotiateFinish` is their order in the connection task.
-/
namespace SessionKey

open CheckedExecution ByteCodec BlockMode Error Crypto Message FrameSafety FrameRoundTrip
open Protocol PayloadRoundTrip

section Steps

variable (C : Crates)

def verifySessionKeyResponse (localNonce remotePayload localKey : Bytes) : Result Bytes :=
  if remotePayload.length < 48 then .err .keyOrVersionError
  else do
    let remoteNonce ← slice remotePayload 0 16
    let remoteHmac ← slice remotePayload 16 48
    if (C.hmacSha256 localKey localNonce).val ≠ remoteHmac then .err .encryptionFailed
    else .ok remoteNonce

def maskFrom (remoteNonce : Bytes) : Nat → Bytes → Result Bytes
  | _, [] => .ok []
  | i, b :: rest => do
    let j ← remUsize i remoteNonce.length
    let r ← index remoteNonce j
    let tail ← maskFrom remoteNonce (i + 1) rest
    .ok ((b ^^^ r) :: tail)

def finalizeSessionKey (localNonce remoteNonce localKey : Bytes) : Result (Bytes × Bytes) := do
  let finishHmac := (C.hmacSha256 localKey remoteNonce).val
  let sessionKey ← maskFrom remoteNonce 0 localNonce
  .ok (sessionKey, finishHmac)

def encryptSessionKeyEcb (sessionKey : Bytes) (cipher : TuyaCipher) : Result Bytes :=
  cipher.encrypt C sessionKey false none none false

def encryptSessionKeyV35 (sessionKey : Bytes) (cipher : TuyaCipher) (nonce : Bytes) :
    Result Bytes := do
  let iv ← slice nonce 0 12
  let encrypted ← cipher.encrypt C sessionKey false (some iv) none false
  slice encrypted 12 28

def encryptSessionKey : TuyaProtocol → Bytes → TuyaCipher → Bytes → Result Bytes
  | .v31, sessionKey, cipher, _ => encryptSessionKeyEcb C sessionKey cipher
  | .v32, sessionKey, cipher, _ => encryptSessionKeyEcb C sessionKey cipher
  | .v33, sessionKey, cipher, _ => encryptSessionKeyEcb C sessionKey cipher
  | .v34, sessionKey, cipher, _ => encryptSessionKeyEcb C sessionKey cipher
  | .v35, sessionKey, cipher, nonce => encryptSessionKeyV35 C sessionKey cipher nonce
  | .dev22 base, sessionKey, cipher, nonce => encryptSessionKey base sessionKey cipher nonce

def acceptResponse (localNonce remotePayload localKey : Bytes) : Result (Bytes × Bytes) := do
  let remoteNonce ← verifySessionKeyResponse C localNonce remotePayload localKey
  finalizeSessionKey C localNonce remoteNonce localKey

def storedKey (protocol : TuyaProtocol) (sessionKey localNonce localKey : Bytes) :
    Result Bytes := do
  let cipher ← TuyaCipher.new localKey
  encryptSessionKey C protocol sessionKey cipher localNonce

/-- The end of the negotiation, from the response payload on. `sendFinish` is the outcome
of writing the finish frame, `stored` the session key of the device state. -/
def negotiateFinish (protocol : TuyaProtocol) (localKey localNonce remotePayload : Bytes)
    (sendFinish : Result Unit) (stored : Option Bytes) : Result Bool × Option Bytes :=
  match acceptResponse C localNonce remotePayload localKey with
  | .err e => (.err e, stored)
  | .panic => (.panic, stored)
  | .ok (sessionKey, _) =>
    match sendFinish with
    | .err e => (.err e, stored)
    | .panic => (.panic, stored)
    | .ok () =>
      match storedKey C protocol sessionKey localNonce localKey with
      | .err e => (.err e, stored)
      | .panic => (.panic, stored)
      | .ok key => (.ok true, some key)

end Steps

section Derivation

theorem maskFrom_eq {remoteNonce : Bytes} (bytes : Bytes) : ∀ i,
    i + bytes.length ≤ remoteNonce.length →
    maskFrom remoteNonce i bytes = .ok (List.zipWith (· ^^^ ·) bytes (remoteNonce.drop i)) := by
  induction bytes with
  | nil => intro i _; simp [maskFrom]
  | cons b rest ih =>
    intro i h
    rw [List.length_cons] at h
    have hi : i < remoteNonce.length := by omega
    rw [maskFrom, remUsize_of_pos (b := remoteNonce.length) (by omega), Outcome.ok_bind,
      Nat.mod_eq_of_lt hi, index_of_lt hi, Outcome.ok_bind, ih (i + 1) (by omega),
      Outcome.ok_bind, List.drop_eq_getElem_cons hi]
    rfl

variable {C : Crates}

/-- Exchanging the nonces changes the finish message but not the key. -/
theorem finalizeSessionKey_swap (a b : U8Array 16) (localKey : Bytes) :
    ∃ key, key.length = 16 ∧
      finalizeSessionKey C a.val b.val localKey
        = .ok (key, (C.hmacSha256 localKey b.val).val) ∧
      finalizeSessionKey C b.val a.val localKey
        = .ok (key, (C.hmacSha256 localKey a.val).val) := by
  have ha := a.property
  have hb := b.property
  have hcomm : List.zipWith (· ^^^ ·) b.val a.val = List.zipWith (· ^^^ ·) a.val b.val :=
    List.zipWith_comm_of_comm UInt8.xor_comm
  refine ⟨List.zipWith (· ^^^ ·) a.val b.val, by simp [ha, hb], ?_, ?_⟩
  · rw [finalizeSessionKey, maskFrom_eq a.val 0 (by omega), List.drop_zero]
    rfl
  · rw [finalizeSessionKey, maskFrom_eq b.val 0 (by omega), List.drop_zero, hcomm]
    rfl

theorem encryptSessionKeyEcb_ok (cipher : TuyaCipher) {key : Bytes} (h : key.length = 16) :
    ∃ stored, encryptSessionKeyEcb C key cipher = .ok stored ∧ stored.length = 16 := by
  have hm : key.length % 16 = 0 := by omega
  exact ⟨_, encrypt_unpadded cipher hm none, by rw [length_ecb _ hm, h]⟩

theorem encryptSessionKeyV35_ok (hC : C.GcmLaw) (cipher : TuyaCipher) {key : Bytes}
    (h : key.length = 16) (nonce : U8Array 16) :
    ∃ stored, encryptSessionKeyV35 C key cipher nonce.val = .ok stored ∧
      stored.length = 16 := by
  have hn := nonce.property
  have hiv : (nonce.val.take 12).length = 12 := by rw [List.length_take]; omega
  have hs : (slice nonce.val 0 12 : Result Bytes) = .ok (nonce.val.take 12) := by
    rw [slice_of_le (by omega) (by omega) (by decide), List.drop_zero]
  have hnone : ((none : Option Bytes).getD []).length < 2 ^ 32 := by simp
  obtain ⟨c, henc, hl, -⟩ := encrypt_gcm cipher hC hiv hnone
    (show key.length < 2 ^ 32 by omega) false
  have hlen : (nonce.val.take 12 ++ c).length = 44 := by rw [List.length_append]; omega
  refine ⟨((nonce.val.take 12 ++ c).take 28).drop 12, ?_, ?_⟩
  · rw [encryptSessionKeyV35, hs, Outcome.ok_bind, henc, Outcome.ok_bind]
    exact slice_of_le (by omega) (by omega) (by decide)
  · rw [List.length_drop, List.length_take]; omega

theorem encryptSessionKey_ok (hC : C.GcmLaw) (cipher : TuyaCipher) {key : Bytes}
    (h : key.length = 16) (nonce : U8Array 16) (protocol : TuyaProtocol) :
    ∃ stored, encryptSessionKey C protocol key cipher nonce.val = .ok stored ∧
      stored.length = 16 := by
  induction protocol with
  | v31 | v32 | v33 | v34 => exact encryptSessionKeyEcb_ok cipher h
  | v35 => exact encryptSessionKeyV35_ok hC cipher h nonce
  | dev22 base ih => exact ih

theorem storedKey_ok (hC : C.GcmLaw) (protocol : TuyaProtocol) {key : Bytes}
    (h : key.length = 16) (localNonce : U8Array 16) (localKey : Key) :
    ∃ stored, storedKey C protocol key localNonce.val localKey.val = .ok stored ∧
      stored.length = 16 := by
  have hnew : TuyaCipher.new localKey.val = .ok ⟨localKey⟩ := dif_pos localKey.property
  rw [storedKey, hnew, Outcome.ok_bind]
  exact encryptSessionKey_ok hC ⟨localKey⟩ h localNonce protocol

theorem storedKey_length (hC : C.GcmLaw) {protocol : TuyaProtocol} {key localKey stored : Bytes}
    {nonce : U8Array 16} (hlen : key.length = 16)
    (h : storedKey C protocol key nonce.val localKey = .ok stored) : stored.length = 16 := by
  obtain ⟨cipher, -, henc⟩ := Outcome.bind_eq_ok h
  obtain ⟨stored', hok, hlen'⟩ := encryptSessionKey_ok hC cipher hlen nonce protocol
  rw [henc] at hok
  cases hok
  exact hlen'

theorem maskFrom_length {remoteNonce : Bytes} (bytes : Bytes) : ∀ {i : Nat} {masked : Bytes},
    maskFrom remoteNonce i bytes = .ok masked → masked.length = bytes.length := by
  induction bytes with
  | nil =>
    intro i masked h
    cases h
    rfl
  | cons b rest ih =>
    intro i masked h
    obtain ⟨j, -, h⟩ := Outcome.bind_eq_ok h
    obtain ⟨r, -, h⟩ := Outcome.bind_eq_ok h
    obtain ⟨tail, htail, h⟩ := Outcome.bind_eq_ok h
    cases h
    rw [List.length_cons, List.length_cons, ih htail]

theorem acceptResponse_length {localNonce remotePayload localKey sessionKey finishHmac : Bytes}
    (h : acceptResponse C localNonce remotePayload localKey = .ok (sessionKey, finishHmac)) :
    sessionKey.length = localNonce.length := by
  obtain ⟨remoteNonce, -, h⟩ := Outcome.bind_eq_ok h
  obtain ⟨masked, hmask, h⟩ := Outcome.bind_eq_ok h
  cases h
  exact maskFrom_length localNonce hmask

/-- The response proves that the device holds the local key. -/
structure Authentic (C : Crates) (localKey localNonce remotePayload : Bytes) : Prop where
  long_enough : 48 ≤ remotePayload.length
  proof_matches : (remotePayload.take 48).drop 16 = (C.hmacSha256 localKey localNonce).val

theorem verify_authentic {localKey localNonce remotePayload : Bytes}
    (h : Authentic C localKey localNonce remotePayload) :
    verifySessionKeyResponse C localNonce remotePayload localKey
      = .ok (remotePayload.take 16) := by
  have hl := h.long_enough
  rw [verifySessionKeyResponse, if_neg (by omega),
    slice_of_le (by omega) (by omega) (by decide), Outcome.ok_bind,
    slice_of_le (by omega) hl (by decide), Outcome.ok_bind, List.drop_zero,
    if_neg (not_not_intro h.proof_matches.symm)]

theorem verify_not_authentic {localKey localNonce remotePayload : Bytes}
    (h : ¬ Authentic C localKey localNonce remotePayload) :
    ∃ e, verifySessionKeyResponse C localNonce remotePayload localKey = .err e := by
  by_cases hl : remotePayload.length < 48
  · exact ⟨_, if_pos hl⟩
  · have hne : (C.hmacSha256 localKey localNonce).val ≠ (remotePayload.take 48).drop 16 :=
      fun he => h ⟨by omega, he.symm⟩
    refine ⟨.encryptionFailed, ?_⟩
    rw [verifySessionKeyResponse, if_neg hl, slice_of_le (by omega) (by omega) (by decide),
      Outcome.ok_bind, slice_of_le (by omega) (by omega) (by decide), Outcome.ok_bind,
      if_pos hne]

/-- What a peer stores that holds the same local key and runs the derivation with the
nonces in its own order. -/
def peerKey (C : Crates) (protocol : TuyaProtocol) (localKey clientNonce deviceNonce : Bytes) :
    Result Bytes := do
  let (sessionKey, _) ← finalizeSessionKey C deviceNonce clientNonce localKey
  storedKey C protocol sessionKey clientNonce localKey

/-- On every response payload the negotiation either fails and leaves the stored key
alone, or stores a 16-byte key that the peer derives too. -/
theorem negotiation_stores_iff (hC : C.GcmLaw) (version : Version) (devType : DeviceType)
    (localKey : Key) (localNonce : U8Array 16) (remotePayload : Bytes) (stored : Option Bytes) :
    (¬ Authentic C localKey.val localNonce.val remotePayload →
      ∃ e, negotiateFinish C (getProtocol version devType) localKey.val localNonce.val
        remotePayload (.ok ()) stored = (.err e, stored)) ∧
    (Authentic C localKey.val localNonce.val remotePayload →
      ∃ key, negotiateFinish C (getProtocol version devType) localKey.val localNonce.val
          remotePayload (.ok ()) stored = (.ok true, some key) ∧
        key.length = 16 ∧
        (∃ cipher, TuyaCipher.new key = .ok cipher) ∧
        peerKey C (getProtocol version devType) localKey.val localNonce.val
          (remotePayload.take 16) = .ok key) := by
  constructor
  · intro h
    obtain ⟨e, he⟩ := verify_not_authentic h
    refine ⟨e, ?_⟩
    have hacc : acceptResponse C localNonce.val remotePayload localKey.val = .err e := by
      rw [acceptResponse, he, Outcome.err_bind]
    simp only [negotiateFinish, hacc]
  · intro h
    have hlong := h.long_enough
    set remoteNonce : U8Array 16 := ⟨remotePayload.take 16, by rw [List.length_take]; omega⟩
      with hremote
    obtain ⟨sessionKey, hlen, hours, htheirs⟩ :=
      finalizeSessionKey_swap (C := C) localNonce remoteNonce localKey.val
    obtain ⟨key, hkey, hkeyLen⟩ := storedKey_ok hC (getProtocol version devType) hlen localNonce
      localKey
    have hacc : acceptResponse C localNonce.val remotePayload localKey.val
        = .ok (sessionKey, (C.hmacSha256 localKey.val remoteNonce.val).val) := by
      rw [acceptResponse, verify_authentic h, Outcome.ok_bind]
      exact hours
    refine ⟨key, by simp only [negotiateFinish, hacc, hkey], hkeyLen,
      ⟨⟨⟨key, hkeyLen⟩⟩, dif_pos hkeyLen⟩, ?_⟩
    rw [peerKey, show remotePayload.take 16 = remoteNonce.val from rfl, htheirs]
    exact hkey

def sampleResponse : Bytes :=
  KnownAnswers.remoteNonce.val ++
    (KnownAnswers.number 32 0xaebfb67af6e27e2ccb0bfa11111350e9a4eecd5f0b86594ef58ea8c325e91da5).val

theorem sample_negotiation_stores : Authentic KnownAnswers.crates KnownAnswers.sampleKey.val
      KnownAnswers.localNonce.val sampleResponse ∧
    ∃ key, negotiateFinish KnownAnswers.crates (getProtocol .v34 .device22)
        KnownAnswers.sampleKey.val KnownAnswers.localNonce.val sampleResponse (.ok ()) none
          = (.ok true, some key) ∧
      peerKey KnownAnswers.crates (getProtocol .v34 .device22) KnownAnswers.sampleKey.val
        KnownAnswers.localNonce.val KnownAnswers.remoteNonce.val = .ok key := by
  have hproof : Authentic KnownAnswers.crates KnownAnswers.sampleKey.val
      KnownAnswers.localNonce.val sampleResponse := ⟨by decide, by decide⟩
  obtain ⟨key, hstored, -, -, hpeer⟩ := (negotiation_stores_iff KnownAnswers.gcmLaw
    .v34 .device22 KnownAnswers.sampleKey KnownAnswers.localNonce sampleResponse
    none).2 hproof
  exact ⟨hproof, key, hstored, hpeer⟩

end Derivation

section HonestDevice

variable (C : Crates) (build : Build)

def responsePayload (localKey localNonce remoteNonce : Bytes) : Bytes :=
  remoteNonce ++ (C.hmacSha256 localKey localNonce).val

/-- The response frame of a device: the return code, then the payload as the version
itself packs it. `iv` is the nonce drawn for a 6699 frame. -/
def respond (protocol : TuyaProtocol) (localKey : Key) (localNonce remoteNonce : Bytes)
    (seqno retcode : UInt32) (iv : U8Array 12) : Result Bytes := do
  let cmd := CommandType.sessKeyNegResp.code
  let packed ← protocol.packPayload C (responsePayload C localKey.val localNonce remoteNonce)
    cmd ⟨localKey⟩
  packMessage C build iv
    { seqno, cmd, retcode := none, payload := writeU32 retcode ++ packed,
      msgPrefix := protocol.getPrefix, iv := none } (protocol.getHmacKey localKey.val)

def readResponse (protocol : TuyaProtocol) (localKey : Key) (localNonce frame : Bytes) :
    Result Bytes := do
  let msg ← unpackMessage C build frame (protocol.getHmacKey localKey.val) none (some false)
  let payload ← protocol.decryptPayload C msg.payload ⟨localKey⟩
  verifySessionKeyResponse C localNonce payload localKey.val

variable {C} (localKey : Key) (localNonce remoteNonce : U8Array 16)

theorem length_responsePayload :
    (responsePayload C localKey.val localNonce.val remoteNonce.val).length = 48 := by
  rw [responsePayload, List.length_append, remoteNonce.property,
    (C.hmacSha256 localKey.val localNonce.val).property]

theorem authentic_responsePayload :
    Authentic C localKey.val localNonce.val
      (responsePayload C localKey.val localNonce.val remoteNonce.val) := by
  have hl := length_responsePayload (C := C) localKey localNonce remoteNonce
  refine ⟨by omega, ?_⟩
  rw [List.take_of_length_le (by omega), responsePayload,
    List.drop_left' remoteNonce.property]

/-- A payload that is taken to have a version header is too short without it. -/
theorem verify_stripHeader (version : Version) :
    verifySessionKeyResponse C localNonce.val (stripHeader version
        (responsePayload C localKey.val localNonce.val remoteNonce.val)) localKey.val
      = .ok remoteNonce.val ↔ remoteNonce.val.take 3 ≠ version.asBytes := by
  have hl := length_responsePayload (C := C) localKey localNonce remoteNonce
  have htake : (responsePayload C localKey.val localNonce.val remoteNonce.val).take 3
      = remoteNonce.val.take 3 := by
    rw [responsePayload, List.take_append_of_le_length (by rw [remoteNonce.property]; omega)]
  have hhead : hasVersionHeader version
      (responsePayload C localKey.val localNonce.val remoteNonce.val) = true ↔
      remoteNonce.val.take 3 = version.asBytes := by
    simp [hasVersionHeader, hl, htake]
  by_cases h : remoteNonce.val.take 3 = version.asBytes
  · have herr : verifySessionKeyResponse C localNonce.val (stripHeader version
        (responsePayload C localKey.val localNonce.val remoteNonce.val)) localKey.val
        = .err .keyOrVersionError := by
      rw [stripHeader, if_pos (hhead.mpr h), verifySessionKeyResponse,
        if_pos (by rw [List.length_drop]; omega)]
    rw [herr]
    refine ⟨fun hok => ?_, fun hne => absurd h hne⟩
    cases hok
  · rw [stripHeader, if_neg (fun hc => h (hhead.mp hc)),
      verify_authentic (authentic_responsePayload localKey localNonce remoteNonce),
      responsePayload, List.take_left' remoteNonce.property]
    exact ⟨fun _ => h, fun _ => rfl⟩

theorem decrypt_packed_response (hB : C.BlockLaw) {version : Version}
    (hv : version = .v34 ∨ version = .v35) (payload : Bytes) :
    ∃ packed, (getProtocol version .default).packPayload C payload
          CommandType.sessKeyNegResp.code ⟨localKey⟩ = .ok packed ∧
      packed.length ≤ payload.length + 16 ∧
      (getProtocol version .default).decryptPayload C packed ⟨localKey⟩
        = .ok (stripHeader version payload) := by
  rcases hv with rfl | rfl
  · have hl := length_encrypt_padded (C := C) ⟨localKey⟩ payload
    refine ⟨sealed C ⟨localKey⟩ payload, rfl, by rw [sealed]; omega, ?_⟩
    simp only [getProtocol, reduceCtorEq, if_false, TuyaProtocol.decryptPayload,
      decryptPayloadV34, decrypt_sealed ⟨localKey⟩ hB]
  · exact ⟨payload, rfl, by omega, rfl⟩

theorem unpack_response (hG : C.GcmLaw) {version : Version}
    (hv : version = .v34 ∨ version = .v35) (seqno cmd retcode : UInt32) (iv : U8Array 12)
    {packed : Bytes} (h : packed.length ≤ 64) :
    ∃ frame msg, packMessage C build iv
        { seqno, cmd, retcode := none, payload := writeU32 retcode ++ packed,
          msgPrefix := (getProtocol version .default).getPrefix, iv := none }
        ((getProtocol version .default).getHmacKey localKey.val) = .ok frame ∧
      unpackMessage C build frame ((getProtocol version .default).getHmacKey localKey.val) none
        (some false) = .ok msg ∧ msg.payload = packed := by
  have hlen : (writeU32 retcode ++ packed).length = 4 + packed.length := by simp
  rcases hv with rfl | rfl
  · have hend := endLen_le (some localKey.val)
    have hfit : (writeU32 retcode ++ packed).length + 16 + endLen (some localKey.val)
        < 2 ^ 32 := by omega
    have hread := unpack_frame55aa C build seqno cmd [] hfit (some false)
    dsimp only at hread
    rw [List.append_nil] at hread
    exact ⟨_, _, pack55aa_eq C build seqno cmd none hfit, hread, rfl⟩
  · have hfit : (retcodeBytes none ++ (writeU32 retcode ++ packed)).length + 50 < 2 ^ 32 := by
      simp only [retcodeBytes, List.nil_append, hlen]
      omega
    obtain ⟨c, hc, hpack, hdec⟩ := pack6699_eq C hG seqno cmd localKey iv iv hfit
    have hread := unpack_frame6699 C build hc hfit rfl hdec (some false) []
    rw [List.append_nil] at hread
    exact ⟨_, _, hpack, hread, rfl⟩

theorem respond_getProtocol (version : Version) (devType : DeviceType) (seqno retcode : UInt32)
    (iv : U8Array 12) :
    respond C build (getProtocol version devType) localKey localNonce.val remoteNonce.val
        seqno retcode iv
      = respond C build (getProtocol version .default) localKey localNonce.val remoteNonce.val
        seqno retcode iv := by
  cases devType <;> rfl

theorem readResponse_getProtocol (version : Version) (devType : DeviceType) (frame : Bytes) :
    readResponse C build (getProtocol version devType) localKey localNonce.val frame
      = readResponse C build (getProtocol version .default) localKey localNonce.val frame := by
  cases devType <;> rfl

/-- The response of an honest device is accepted exactly when its nonce does not begin
with the three bytes of the version, which the client would take for a version header. -/
theorem honest_response_accepted_iff (hB : C.BlockLaw) (hG : C.GcmLaw) {version : Version}
    (hv : version = .v34 ∨ version = .v35) (devType : DeviceType) (seqno retcode : UInt32)
    (iv : U8Array 12) :
    ∃ frame, respond C build (getProtocol version devType) localKey localNonce.val
        remoteNonce.val seqno retcode iv = .ok frame ∧
      (readResponse C build (getProtocol version devType) localKey localNonce.val frame
        = .ok remoteNonce.val ↔ remoteNonce.val.take 3 ≠ version.asBytes) := by
  have hl := length_responsePayload (C := C) localKey localNonce remoteNonce
  obtain ⟨packed, hpack, hplen, hdec⟩ := decrypt_packed_response localKey hB hv
    (responsePayload C localKey.val localNonce.val remoteNonce.val)
  obtain ⟨frame, msg, hframe, hmsg, hpayload⟩ := unpack_response build localKey hG hv seqno
    CommandType.sessKeyNegResp.code retcode iv (show packed.length ≤ 64 by omega)
  refine ⟨frame, ?_, ?_⟩
  · rw [respond_getProtocol, respond, hpack, Outcome.ok_bind, hframe]
  · rw [readResponse_getProtocol, readResponse, hmsg, Outcome.ok_bind, hpayload, hdec,
      Outcome.ok_bind]
    exact verify_stripHeader localKey localNonce remoteNonce version

theorem sample_response_accepted :
    KnownAnswers.remoteNonce.val.take 3 ≠ Version.v34.asBytes ∧
    ∃ frame, respond KnownAnswers.crates .release (getProtocol .v34 .default)
        KnownAnswers.sampleKey KnownAnswers.localNonce.val KnownAnswers.remoteNonce.val 1 0
        KnownAnswers.sampleIv = .ok frame ∧
      readResponse KnownAnswers.crates .release (getProtocol .v34 .default)
        KnownAnswers.sampleKey KnownAnswers.localNonce.val frame
        = .ok KnownAnswers.remoteNonce.val := by
  have hne : KnownAnswers.remoteNonce.val.take 3 ≠ Version.v34.asBytes := by decide
  obtain ⟨frame, hframe, hread⟩ := honest_response_accepted_iff .release KnownAnswers.sampleKey
    KnownAnswers.localNonce KnownAnswers.remoteNonce KnownAnswers.blockLaw KnownAnswers.gcmLaw
    (Or.inl rfl) .default 1 0 KnownAnswers.sampleIv
  exact ⟨hne, frame, hframe, hread.mpr hne⟩

def versionLikeResponse : Bytes :=
  (KnownAnswers.number 84 (0x000055aa00000001000000040000006800000000 * 256 ^ 64 +
    0xdc4f2c3c7ce3f664a09a1c49f011665e46ba298067d2891c9e55f0b1dbb1527b * 256 ^ 32 +
    0xee92145f96ca034f26acf323e2cbe7129a1426e3776139d05bb57dcf98a381ec)).val ++
  (KnownAnswers.number 36
    0x946bc20acf805dda2197a39f85ab9ff7c25a5e3b5fe7d00ce08bbf2c4677531b0000aa55).val

theorem version_like_nonce_rejected :
    respond KnownAnswers.crates .release (getProtocol .v34 .default) KnownAnswers.sampleKey
        KnownAnswers.localNonce.val KnownAnswers.versionLikeNonce.val 1 0 KnownAnswers.sampleIv
      = .ok versionLikeResponse ∧
    readResponse KnownAnswers.crates .release (getProtocol .v34 .default)
        KnownAnswers.sampleKey KnownAnswers.localNonce.val versionLikeResponse
      = .err .keyOrVersionError := by
  constructor
  · decide +kernel
  · decide +kernel

end HonestDevice

end SessionKey
