import Rustuya.KnownAnswers
import Rustuya.Protocol

/-!
# Round trip of payloads

A JSON payload packed by a version is recovered by the same version. The decoder
recognises the version header by its first bytes without knowing the command, so the
commands that are sent without header under 3.2 and 3.3 are treated on their own.
-/
namespace PayloadRoundTrip

open CheckedExecution ByteCodec BlockMode Error Crypto Message Protocol

/-- The payloads `send_json_msg` produces start with an opening brace. -/
def OpensBrace (payload : Bytes) : Prop := payload.head? = some 0x7b

instance (payload : Bytes) : Decidable (OpensBrace payload) :=
  inferInstanceAs (Decidable (_ = _))

def Headed : Version → Prop
  | .v32 | .v33 | .v34 | .v35 => True
  | .auto | .v31 => False

theorem length_asBytes {v : Version} (h : Headed v) : v.asBytes.length = 3 := by
  cases v <;> first | rfl | exact h.elim

theorem stripHeader_addProtocolHeader {v : Version} (h : Headed v) (payload : Bytes) :
    stripHeader v (addProtocolHeader v payload) = payload := by
  have hl := length_asBytes h
  have hhead : hasVersionHeader v (addProtocolHeader v payload) = true := by
    have ht : (addProtocolHeader v payload).take 3 = v.asBytes := by
      rw [addProtocolHeader, List.append_assoc, List.take_left' hl]
    have h15 : 15 ≤ (addProtocolHeader v payload).length := by simp [addProtocolHeader, hl]; omega
    rw [hasVersionHeader, ht, beq_self_eq_true, decide_eq_true h15, Bool.and_self]
  rw [stripHeader, if_pos hhead, addProtocolHeader]
  exact List.drop_left' (by simp [hl])

theorem stripHeader_of_opensBrace {v : Version} (h : Headed v) {payload : Bytes}
    (hp : OpensBrace payload) : stripHeader v payload = payload := by
  have hno : hasVersionHeader v payload = false := by
    cases payload with
    | nil => simp [OpensBrace] at hp
    | cons b rest =>
      obtain rfl : b = 0x7b := by simpa [OpensBrace] using hp
      have hv : v.asBytes.head? = some 0x33 := by
        cases v <;> first | rfl | exact h.elim
      rw [hasVersionHeader, Bool.and_eq_false_iff]
      right
      rw [beq_eq_false_iff_ne]
      intro heq
      rw [← heq] at hv
      simp at hv
  rw [stripHeader, hno]
  rfl

variable {C : Crates} (cipher : TuyaCipher)

def sealed (C : Crates) (cipher : TuyaCipher) (payload : Bytes) : Bytes :=
  ecb (C.aesEncryptBlock cipher.key) (pad payload)

theorem sealed_ne_nil (payload : Bytes) : sealed C cipher payload ≠ [] := by
  intro h
  have hl := length_encrypt_padded (C := C) cipher payload
  rw [show ecb (C.aesEncryptBlock cipher.key) (pad payload) = [] from h, List.length_nil] at hl
  omega

theorem decrypt_sealed (hC : C.BlockLaw) (payload : Bytes) :
    cipher.decrypt C (sealed C cipher payload) false none none = .ok payload :=
  decrypt_encrypt_padded cipher hC payload

theorem length_hexEncode : ∀ data : Bytes, (hexEncode data).length = 2 * data.length
  | [] => rfl
  | b :: rest => by
    have ih := length_hexEncode rest
    simp only [hexEncode, List.flatMap_cons, List.length_append] at ih ⊢
    rw [ih]
    simp
    omega

def codec (C : Crates) (protocol : TuyaProtocol) (cipher : TuyaCipher) (payload : Bytes)
    (cmd : UInt32) : Result Bytes := do
  let packed ← protocol.packPayload C payload cmd cipher
  protocol.decryptPayload C packed cipher

theorem codec_getProtocol (version : Version) (devType : DeviceType) (payload : Bytes)
    (cmd : UInt32) : codec C (getProtocol version devType) cipher payload cmd
      = codec C (getProtocol version .default) cipher payload cmd := by
  cases devType <;> rfl

theorem codec_v31 (hB : C.BlockLaw) (h64 : C.Base64Law) {payload : Bytes}
    (hp : OpensBrace payload) (cmd : UInt32) : codec C .v31 cipher payload cmd = .ok payload := by
  by_cases hc : cmd = CommandType.control.code ∨ cmd = CommandType.controlNew.code
  · -- The text is "3.1", sixteen digits of a digest, and the base-64 ciphertext.
    set b64 := C.base64Encode (sealed C cipher payload) with hb64
    set hash := C.md5 (utf8 "data=" ++ b64 ++ utf8 "||lpv=3.1||" ++ cipher.key.val)
    have hhex : (hexEncode hash.val).length = 32 := by rw [length_hexEncode, hash.property]
    set digits := ((hexEncode hash.val).take 24).drop 8 with hdigits
    have hslice : (slice (hexEncode hash.val) 8 24 : Result Bytes) = .ok digits :=
      slice_of_le (by omega) (by omega) (by decide)
    have hdl : digits.length = 16 := by
      rw [hdigits, List.length_drop, List.length_take]; omega
    have hpack : TuyaProtocol.packPayload C .v31 payload cmd cipher
        = .ok (utf8 "3.1" ++ digits ++ b64) := by
      simp only [TuyaProtocol.packPayload, packPayloadV31, if_pos hc, encrypt_padded,
        Outcome.ok_bind]
      change (slice (hexEncode hash.val) 8 24 >>= _) = _
      rw [hslice, Outcome.ok_bind]
      rfl
    have hblen : 0 < b64.length := by
      have hs := length_encrypt_padded (C := C) cipher payload
      rw [hb64, (h64 _).2, sealed]
      omega
    have hlen : (utf8 "3.1" ++ digits).length = 19 := by
      rw [List.length_append, hdl]; rfl
    have hpre : (utf8 "3.1").isPrefixOf (utf8 "3.1" ++ digits ++ b64) = true := by
      rw [List.append_assoc]
      simp
    have hrest : (sliceFrom (utf8 "3.1" ++ digits ++ b64) 19 : Result Bytes) = .ok b64 := by
      rw [sliceFrom_of_le (by rw [List.length_append]; omega), List.drop_left' hlen]
    rw [codec, hpack, Outcome.ok_bind, TuyaProtocol.decryptPayload, decryptPayloadV31,
      if_pos ⟨hpre, by rw [List.length_append]; omega⟩, hrest, Outcome.ok_bind, hb64, (h64 _).1,
      Outcome.okOr_some, Outcome.ok_bind, decrypt_sealed cipher hB]
  · have hno : (utf8 "3.1").isPrefixOf payload = false := by
      cases payload with
      | nil => simp [OpensBrace] at hp
      | cons b rest =>
        obtain rfl : b = 0x7b := by simpa [OpensBrace] using hp
        rfl
    rw [codec, TuyaProtocol.packPayload, packPayloadV31, if_neg hc, Outcome.ok_bind,
      TuyaProtocol.decryptPayload, decryptPayloadV31, if_neg (by simp only [hno]; simp)]

theorem decryptPayloadOuter_of_strip (hB : C.BlockLaw) {v : Version} (h : Headed v)
    {packed payload : Bytes} (hp : OpensBrace payload)
    (hs : stripHeader v packed = sealed C cipher payload) :
    decryptPayloadOuter C v packed cipher = .ok payload := by
  have hne : (sealed C cipher payload).isEmpty = false := by
    simpa [List.isEmpty_iff] using sealed_ne_nil (C := C) cipher payload
  simp only [decryptPayloadOuter, hs, hne, Bool.false_eq_true, if_false, decrypt_sealed cipher hB,
    stripHeader_of_opensBrace h hp]

theorem codec_outer (hB : C.BlockLaw) {v : Version} (h : Headed v) {payload : Bytes}
    (hp : OpensBrace payload) {cmd : UInt32} (hc : cmd ∉ noProtocolHeaderCmds) :
    (packPayloadOuter C v payload cmd cipher >>= fun packed =>
      decryptPayloadOuter C v packed cipher) = .ok payload := by
  rw [packPayloadOuter, encrypt_padded, Outcome.ok_bind, if_pos hc, Outcome.ok_bind]
  exact decryptPayloadOuter_of_strip cipher hB h hp (stripHeader_addProtocolHeader h _)

theorem codec_v34 (hB : C.BlockLaw) {payload : Bytes} (hp : OpensBrace payload)
    (cmd : UInt32) : codec C .v34 cipher payload cmd = .ok payload := by
  set data := if cmd ∉ noProtocolHeaderCmds then addProtocolHeader .v34 payload else payload
    with hdata
  have hstrip : stripHeader .v34 data = payload := by
    rw [hdata]
    split
    · exact stripHeader_addProtocolHeader (v := .v34) trivial payload
    · exact stripHeader_of_opensBrace (v := .v34) trivial hp
  have hpack : TuyaProtocol.packPayload C .v34 payload cmd cipher
      = .ok (sealed C cipher data) := rfl
  rw [codec, hpack, Outcome.ok_bind, TuyaProtocol.decryptPayload, decryptPayloadV34,
    decrypt_sealed cipher hB]
  exact congrArg Outcome.ok hstrip

theorem codec_v35 {payload : Bytes} (hp : OpensBrace payload) (cmd : UInt32) :
    codec C .v35 cipher payload cmd = .ok payload := by
  rw [codec, TuyaProtocol.packPayload, packPayloadV35, Outcome.ok_bind,
    TuyaProtocol.decryptPayload, decryptPayloadV35]
  split
  · rw [stripHeader_addProtocolHeader (v := .v35) trivial]
  · rw [stripHeader_of_opensBrace (v := .v35) trivial hp]

/-- Every version recovers every JSON payload, with or without the wrapper, whatever
the command; under 3.2 and 3.3 the command must be one that carries the header. -/
theorem decrypt_pack_payload (hB : C.BlockLaw) (h64 : C.Base64Law) {version : Version}
    (hv : version ≠ .auto) (devType : DeviceType) {payload : Bytes} (hp : OpensBrace payload)
    {cmd : UInt32} (hc : version = .v32 ∨ version = .v33 → cmd ∉ noProtocolHeaderCmds) :
    codec C (getProtocol version devType) cipher payload cmd = .ok payload := by
  rw [codec_getProtocol]
  cases version with
  | auto => exact (hv rfl).elim
  | v31 => exact codec_v31 cipher hB h64 hp cmd
  | v32 => exact codec_outer cipher hB (v := .v32) trivial hp (hc (Or.inl rfl))
  | v33 => exact codec_outer cipher hB (v := .v33) trivial hp (hc (Or.inr rfl))
  | v34 => exact codec_v34 cipher hB hp cmd
  | v35 => exact codec_v35 cipher hp cmd

theorem control_payload_roundtrip :
    codec KnownAnswers.crates (getProtocol .v33 .default) ⟨KnownAnswers.sampleKey⟩
      KnownAnswers.samplePayload CommandType.control.code = .ok KnownAnswers.samplePayload :=
  decrypt_pack_payload _ KnownAnswers.blockLaw KnownAnswers.base64Law (by decide) .default
    (by decide) (fun _ => by decide)

def LooksHeaded (C : Crates) (cipher : TuyaCipher) (version : Version) (payload : Bytes) : Prop :=
  (onBlock (C.aesEncryptBlock cipher.key) ((pad payload).take 16)).take 3 = version.asBytes

instance (version : Version) (payload : Bytes) :
    Decidable (LooksHeaded C cipher version payload) := inferInstanceAs (Decidable (_ = _))

theorem take_three_sealed (payload : Bytes) :
    (sealed C cipher payload).take 3
      = (onBlock (C.aesEncryptBlock cipher.key) ((pad payload).take 16)).take 3 := by
  have hp := length_pad payload
  have hk : 0 < (pad payload).length / 16 := by omega
  have hb := take_mapBlocks (length_onBlock (C.aesEncryptBlock cipher.key)) hk
    (show (pad payload).length = (pad payload).length / 16 * 16 by omega)
  have h3 : (sealed C cipher payload).take 3 = ((sealed C cipher payload).take 16).take 3 := by
    rw [List.take_take]; rfl
  rw [h3, sealed, ecb, hb]

theorem hasVersionHeader_sealed (version : Version) (payload : Bytes) :
    hasVersionHeader version (sealed C cipher payload) = true ↔
      LooksHeaded C cipher version payload := by
  have hl := length_encrypt_padded (C := C) cipher payload
  have h15 : 15 ≤ (sealed C cipher payload).length := by rw [sealed]; omega
  rw [hasVersionHeader, take_three_sealed, decide_eq_true h15, Bool.true_and, beq_iff_eq]
  rfl

theorem packPayloadOuter_headerless {version : Version} {payload : Bytes} {cmd : UInt32}
    (hc : cmd ∈ noProtocolHeaderCmds) :
    packPayloadOuter C version payload cmd cipher = .ok (sealed C cipher payload) := by
  rw [packPayloadOuter, encrypt_padded, Outcome.ok_bind, if_neg (not_not_intro hc)]
  rfl

/-- A ciphertext mistaken for a headed one loses 15 bytes, no longer fills its blocks,
and is handed on undecrypted. -/
theorem decryptPayloadOuter_of_looksHeaded {version : Version} {payload : Bytes}
    (h : LooksHeaded C cipher version payload) :
    decryptPayloadOuter C version (sealed C cipher payload) cipher
      = .ok ((sealed C cipher payload).drop 15) := by
  have hl := length_encrypt_padded (C := C) cipher payload
  have hs : stripHeader version (sealed C cipher payload) = (sealed C cipher payload).drop 15 :=
    if_pos ((hasVersionHeader_sealed cipher version payload).mpr h)
  have hlen : ((sealed C cipher payload).drop 15).length = payload.length / 16 * 16 + 1 := by
    rw [List.length_drop, sealed]; omega
  have hne : ((sealed C cipher payload).drop 15).isEmpty = false := by
    rw [List.isEmpty_eq_false_iff]
    intro h0
    rw [h0, List.length_nil] at hlen
    omega
  have hdec : cipher.decrypt C ((sealed C cipher payload).drop 15) false none none
      = .err .decryptionFailed := decrypt_partial_block cipher (by omega) none
  simp only [decryptPayloadOuter, hs, hne, hdec, Bool.false_eq_true, if_false]

theorem codec_outer_headerless (hB : C.BlockLaw) {v : Version} (h : Headed v) {payload : Bytes}
    (hp : OpensBrace payload) {cmd : UInt32} (hc : cmd ∈ noProtocolHeaderCmds) :
    (packPayloadOuter C v payload cmd cipher >>= fun packed =>
      decryptPayloadOuter C v packed cipher) = .ok payload ↔
      (¬ LooksHeaded C cipher v payload ∨ (sealed C cipher payload).drop 15 = payload) := by
  rw [packPayloadOuter_headerless cipher hc, Outcome.ok_bind]
  by_cases hl : LooksHeaded C cipher v payload
  · rw [decryptPayloadOuter_of_looksHeaded cipher hl]
    simp [hl]
  · have hs : stripHeader v (sealed C cipher payload) = sealed C cipher payload := by
      rw [stripHeader, if_neg (fun hh => hl ((hasVersionHeader_sealed cipher v payload).mp hh))]
    exact iff_of_true (decryptPayloadOuter_of_strip cipher hB h hp hs) (Or.inl hl)

/-- A payload sent without header under 3.2 or 3.3 comes back exactly when its first
cipher block does not start with the version text; the only other case is a ciphertext
whose bytes from the sixteenth on happen to be the payload itself. -/
theorem headerless_payload_iff (hB : C.BlockLaw) {version : Version}
    (hv : version = .v32 ∨ version = .v33) (devType : DeviceType) {payload : Bytes}
    (hp : OpensBrace payload) {cmd : UInt32} (hc : cmd ∈ noProtocolHeaderCmds) :
    codec C (getProtocol version devType) cipher payload cmd = .ok payload ↔
      (¬ LooksHeaded C cipher version payload ∨ (sealed C cipher payload).drop 15 = payload) := by
  rw [codec_getProtocol]
  rcases hv with rfl | rfl
  · exact codec_outer_headerless cipher hB (v := .v32) trivial hp hc
  · exact codec_outer_headerless cipher hB (v := .v33) trivial hp hc

def heartbeatPayload : Bytes :=
  utf8 "\x7b\"devId\":\"bf0123\",\"gwId\":\"bf0123\"\x7d"

theorem short_heartbeat_survives : ¬ LooksHeaded KnownAnswers.crates ⟨KnownAnswers.sampleKey⟩ .v33
      KnownAnswers.samplePayload ∧
    codec KnownAnswers.crates (getProtocol .v33 .default) ⟨KnownAnswers.sampleKey⟩
      KnownAnswers.samplePayload CommandType.heartBeat.code = .ok KnownAnswers.samplePayload := by
  have hno : ¬ LooksHeaded KnownAnswers.crates ⟨KnownAnswers.sampleKey⟩ .v33
      KnownAnswers.samplePayload := by decide
  exact ⟨hno, (headerless_payload_iff _ KnownAnswers.blockLaw (Or.inr rfl) .default (by decide)
    (by decide)).mpr (Or.inl hno)⟩

/-- Under the sample key AES-128 encrypts the first block of this heartbeat to bytes that
start with the text 3.3, and the payload is lost. -/
theorem heartbeat_payload_lost : KnownAnswers.crates.BlockLaw ∧ OpensBrace heartbeatPayload ∧
    CommandType.heartBeat.code ∈ noProtocolHeaderCmds ∧
    codec KnownAnswers.crates (getProtocol .v33 .default) ⟨KnownAnswers.sampleKey⟩
      heartbeatPayload CommandType.heartBeat.code ≠ .ok heartbeatPayload := by
  refine ⟨KnownAnswers.blockLaw, by decide, by decide, ?_⟩
  intro h
  have hl : LooksHeaded KnownAnswers.crates ⟨KnownAnswers.sampleKey⟩ .v33 heartbeatPayload := by
    decide
  rcases (codec_outer_headerless ⟨KnownAnswers.sampleKey⟩ KnownAnswers.blockLaw (v := .v33)
    trivial (by decide) (by decide)).mp h with hn | hd
  · exact hn hl
  · exact absurd (congrArg List.length hd) (by decide)

end PayloadRoundTrip
