import Rustuya.FrameSafety

/-!
# Round trip of the two frame layouts

Decoding a packed message gives the message back, whatever bytes follow the frame. The
return code of a 55AA frame is not written by the encoder: a decoder that looks for one
takes it from the first four payload bytes.
-/
namespace FrameRoundTrip

open CheckedExecution ByteCodec Error Crypto Message FrameSafety

variable (C : Crates) (build : Build)

def header55aa (seqno cmd payloadLen : UInt32) : Bytes :=
  writeU32 prefix55aa ++ (writeU32 seqno ++ (writeU32 cmd ++ writeU32 payloadLen))

@[simp] theorem length_header55aa (seqno cmd payloadLen : UInt32) :
    (header55aa seqno cmd payloadLen).length = 16 := rfl

def footer55aa (hmacKey : Option Bytes) (data : Bytes) : Bytes :=
  match hmacKey with
  | some key => (C.hmacSha256 key data).val
  | none => writeU32 (C.crc32 data)

theorem length_footer55aa (hmacKey : Option Bytes) (data : Bytes) :
    (footer55aa C hmacKey data).length + 4 = endLen hmacKey := by
  cases hmacKey with
  | some key => simp [footer55aa, endLen, (C.hmacSha256 key data).property]
  | none => simp [footer55aa, endLen]

/-- The layout the encoder produces: header, payload, checksum of both, suffix. -/
theorem pack55aa_eq (seqno cmd : UInt32) {payload : Bytes} {hmacKey : Option Bytes}
    (iv : Option Bytes) (h : payload.length + 16 + endLen hmacKey < 2 ^ 32) :
    pack55aa C build ⟨seqno, cmd, none, payload, prefix55aa, iv⟩ hmacKey =
      (let len := UInt32.ofNat (payload.length + endLen hmacKey)
      let data := header55aa seqno cmd len ++ payload
      .ok (data ++ (footer55aa C hmacKey data ++ writeU32 suffix55aa))) := by
  have hend := endLen_le hmacKey
  have hs : (if hmacKey.isSome then 32 + 4 else 4 + 4 : UInt32)
      = UInt32.ofNat (endLen hmacKey) := by
    cases hmacKey <;> rfl
  have hp : (UInt32.ofNat payload.length).toNat = payload.length := by
    rw [UInt32.toNat_ofNat', Nat.mod_eq_of_lt (by omega)]
  have he : (UInt32.ofNat (endLen hmacKey)).toNat = endLen hmacKey := by
    rw [UInt32.toNat_ofNat', Nat.mod_eq_of_lt (by omega)]
  have hadd : UInt32.ofNat payload.length + UInt32.ofNat (endLen hmacKey)
      = UInt32.ofNat (payload.length + endLen hmacKey) := (UInt32.ofNat_add _ _).symm
  rw [pack55aa]
  dsimp only
  rw [hs, addU32_of_lt build (by rw [hp, he]; omega), Outcome.ok_bind, hadd]
  cases hmacKey <;> simp [header55aa, footer55aa, List.append_assoc]

section Decoded55aa

variable {payload : Bytes} {hmacKey : Option Bytes}

theorem fields55aa (seqno cmd len : UInt32) (rest : Bytes) :
    let data := header55aa seqno cmd len ++ rest
    16 ≤ data.length ∧ readU32 data = prefix55aa ∧ readU32 (data.drop 4) = seqno ∧
      readU32 (data.drop 8) = cmd ∧ lengthField data 16 = len := by
  refine ⟨by simp, ?_, ?_, ?_, ?_⟩
  · exact readU32_writeU32 prefix55aa _
  · exact readU32_writeU32 seqno _
  · exact readU32_writeU32 cmd _
  · exact readU32_writeU32 len _

theorem checkFooter_footer (data : Bytes) :
    checkFooter C hmacKey data (footer55aa C hmacKey data ++ writeU32 suffix55aa) = .ok () := by
  have hmax : isizeMax = 2 ^ 63 - 1 := rfl
  cases hmacKey with
  | some key =>
    have hl := (C.hmacSha256 key data).property
    have hs : (slice ((C.hmacSha256 key data).val ++ writeU32 suffix55aa) 0 32 : Result Bytes)
        = .ok (C.hmacSha256 key data).val := by
      rw [slice_of_le (by omega) (by simp [hl]) (by omega), List.take_left' hl, List.drop_zero]
    simp only [checkFooter, footer55aa, hs, Outcome.ok_bind, ne_eq, not_true_eq_false, if_false]
  | none =>
    have hs : (slice (writeU32 (C.crc32 data) ++ writeU32 suffix55aa) 0 4 : Result Bytes)
        = .ok (writeU32 (C.crc32 data)) :=
      slice_of_le (by omega) (by simp) (by omega)
    have hr : readU32 (writeU32 (C.crc32 data)) = C.crc32 data := by
      simpa using readU32_writeU32 (C.crc32 data) []
    simp only [checkFooter, footer55aa, hs, Outcome.ok_bind, hr, ne_eq, not_true_eq_false,
      if_false]

theorem unpack_frame55aa (seqno cmd : UInt32) (rest : Bytes)
    (h : payload.length + 16 + endLen hmacKey < 2 ^ 32) (mode : Option Bool) :
    (let data := header55aa seqno cmd (UInt32.ofNat (payload.length + endLen hmacKey)) ++ payload
    unpackMessage C build
      (data ++ (footer55aa C hmacKey data ++ writeU32 suffix55aa) ++ rest) hmacKey none mode) =
      (let (retcode, body) := splitRetcode (sniff55aa payload mode) payload
      .ok ⟨seqno, cmd, retcode, body, prefix55aa, none⟩) := by
  set len := UInt32.ofNat (payload.length + endLen hmacKey) with hlen
  dsimp only
  set data := header55aa seqno cmd len ++ payload with hdata
  have hn : len.toNat = payload.length + endLen hmacKey := by
    rw [hlen, UInt32.toNat_ofNat', Nat.mod_eq_of_lt (by omega)]
  have hl : data.length = 16 + payload.length := by simp [hdata]
  have hfoot := length_footer55aa C hmacKey data
  set tail := footer55aa C hmacKey data ++ writeU32 suffix55aa with htail
  have ht : tail.length = endLen hmacKey := by
    rw [htail, List.length_append, length_writeU32, hfoot]
  have hshape : data ++ tail ++ rest = header55aa seqno cmd len ++ (payload ++ (tail ++ rest)) := by
    simp [hdata, List.append_assoc]
  obtain ⟨h16, h55, hseq, hcmd, hfield⟩ := fields55aa seqno cmd len (payload ++ (tail ++ rest))
  rw [← hshape] at h16 h55 hseq hcmd hfield
  have hfit : (lengthField (data ++ tail ++ rest) 16).toNat + 16 < 2 ^ 32 := by
    rw [hfield, hn]; omega
  have htot : (len + 16).toNat = data.length + endLen hmacKey := by
    rw [toNat_add_16 (by omega), hn, hl]; omega
  have hlong : data.length + endLen hmacKey ≤ (data ++ tail ++ rest).length := by
    simp [List.length_append, ht]
  have hstop : (data ++ tail ++ rest).take data.length = data := by
    rw [List.append_assoc, List.take_left' rfl]
  have hfooter : ((data ++ tail ++ rest).take (data.length + endLen hmacKey)).drop data.length
      = tail := by
    rw [List.take_left' (by rw [List.length_append, ht]), List.drop_left' rfl]
  have hbody : data.drop 16 = payload := List.drop_left' rfl
  have hcheck : checkFooter C hmacKey data tail = .ok () := checkFooter_footer C data
  rw [unpackMessage_55aa C build h16 h55 hfit, hfield, hseq, hcmd,
    if_neg (by rw [hn]; omega), unpack55aa_eq C build htot (by omega) (by rw [htot]; exact hlong)]
  simp only [htot, hstop, hfooter, hbody, hcheck, Outcome.ok_bind]

end Decoded55aa

section Decoded6699

def header6699Bytes (seqno cmd len : UInt32) : Bytes :=
  writeU32 prefix6699 ++ (writeU16 0 ++ (writeU32 seqno ++ (writeU32 cmd ++ writeU32 len)))

@[simp] theorem length_header6699Bytes (seqno cmd len : UInt32) :
    (header6699Bytes seqno cmd len).length = 18 := rfl

theorem fields6699 (seqno cmd len : UInt32) (rest : Bytes) :
    let data := header6699Bytes seqno cmd len ++ rest
    18 ≤ data.length ∧ readU32 data = prefix6699 ∧ readU32 (data.drop 6) = seqno ∧
      readU32 (data.drop 10) = cmd ∧ lengthField data 18 = len := by
  refine ⟨by simp, ?_, ?_, ?_, ?_⟩
  · exact readU32_writeU32 prefix6699 _
  · exact readU32_writeU32 seqno _
  · exact readU32_writeU32 cmd _
  · exact readU32_writeU32 len _

theorem pack6699_eq (hC : C.GcmLaw) (seqno cmd : UInt32) {retcode : Option UInt32}
    {payload : Bytes} (key : Key) (iv randomIv : U8Array 12)
    (h : (retcodeBytes retcode ++ payload).length + 50 < 2 ^ 32) :
    ∃ c, c.length = (retcodeBytes retcode ++ payload).length + 16 ∧
      (let len := UInt32.ofNat (12 + c.length)
      pack6699 C randomIv ⟨seqno, cmd, retcode, payload, prefix6699, some iv.val⟩ (some key.val) =
        .ok (header6699Bytes seqno cmd len ++ (iv.val ++ (c ++ writeU32 suffix6699))) ∧
      (TuyaCipher.mk key).decrypt C c false (some iv.val)
          (some ((header6699Bytes seqno cmd len).drop 4)) =
        .ok (retcodeBytes retcode ++ payload)) := by
  set raw := retcodeBytes retcode ++ payload with hraw
  set aad := (header6699Bytes seqno cmd (UInt32.ofNat (12 + raw.length + 16))).drop 4 with haad
  have haadLen : ((some aad).getD []).length < 2 ^ 32 := by
    rw [Option.getD_some, haad, List.length_drop, length_header6699Bytes]
    omega
  obtain ⟨c, henc, hlen, hdec⟩ := encrypt_gcm (TuyaCipher.mk key) hC iv.property haadLen
    (show raw.length < 2 ^ 32 by omega) false
  have hL : 12 + c.length = 12 + raw.length + 16 := by omega
  refine ⟨c, hlen, ?_⟩
  dsimp only
  rw [hL]
  refine ⟨?_, hdec⟩
  have hh : header6699 ⟨seqno, cmd, retcode, payload, prefix6699, some iv.val⟩
      (12 + raw.length + 16) = header6699Bytes seqno cmd (UInt32.ofNat (12 + raw.length + 16)) := by
    simp [header6699, header6699Bytes, List.append_assoc]
  have hnew : TuyaCipher.new key.val = .ok ⟨key⟩ := dif_pos key.property
  simp only [pack6699, Outcome.okOr_some, Outcome.ok_bind, ← hraw, hh, hnew, Option.getD_some]
  rw [sliceFrom_of_le (by simp), Outcome.ok_bind, henc, Outcome.ok_bind]
  simp [List.append_assoc]

theorem unpack_frame6699 {seqno cmd len : UInt32} {raw c : Bytes} {key : Key}
    {iv : U8Array 12} (hc : c.length = raw.length + 16) (hfit : raw.length + 50 < 2 ^ 32)
    (hlen : len = UInt32.ofNat (12 + c.length))
    (hdec : (TuyaCipher.mk key).decrypt C c false (some iv.val)
      (some ((header6699Bytes seqno cmd len).drop 4)) = .ok raw) (mode : Option Bool)
    (rest : Bytes) :
    unpackMessage C build
      (header6699Bytes seqno cmd len ++ (iv.val ++ (c ++ writeU32 suffix6699)) ++ rest)
      (some key.val) none mode =
      (let (retcode, body) := splitRetcode (sniff6699 raw mode) raw
      .ok ⟨seqno, cmd, retcode, body, prefix6699, some iv.val⟩) := by
  have hiv := iv.property
  have hn : len.toNat = 28 + raw.length := by
    rw [hlen, UInt32.toNat_ofNat', Nat.mod_eq_of_lt (by omega)]
    omega
  set head := header6699Bytes seqno cmd len with hhead
  have hhl : head.length = 18 := rfl
  have hshape : head ++ (iv.val ++ (c ++ writeU32 suffix6699)) ++ rest
      = (head ++ (iv.val ++ c)) ++ (writeU32 suffix6699 ++ rest) := by
    simp [List.append_assoc]
  have hshape' : head ++ (iv.val ++ (c ++ writeU32 suffix6699)) ++ rest
      = head ++ ((iv.val ++ (c ++ writeU32 suffix6699)) ++ rest) := by
    simp [List.append_assoc]
  set data := head ++ (iv.val ++ (c ++ writeU32 suffix6699)) ++ rest with hdata
  obtain ⟨h18, h66, hseq, hcmd, hfield⟩ :=
    fields6699 seqno cmd len ((iv.val ++ (c ++ writeU32 suffix6699)) ++ rest)
  rw [← hhead, ← hshape'] at h18 h66 hseq hcmd hfield
  have hlong : len.toNat + 22 ≤ data.length := by
    simp only [hdata, List.length_append, hhl, hiv, hc, length_writeU32]
    omega
  have htot : (len + 18 + 4).toNat = (18 + 12 + c.length) + 4 := by
    rw [toNat_add_22 (by omega), hn]; omega
  have hstop : data.take (18 + 12 + c.length) = head ++ (iv.val ++ c) := by
    rw [hshape]
    apply List.take_left'
    simp only [List.length_append, hhl, hiv]
    omega
  have hbody : (head ++ (iv.val ++ c)).drop 18 = iv.val ++ c := List.drop_left' rfl
  have haad : (data.take 18).drop 4 = head.drop 4 := by
    rw [hshape', List.take_left' hhl]
  have hnew : TuyaCipher.new key.val = .ok ⟨key⟩ := dif_pos key.property
  rw [unpackMessage_6699 C build h18 h66 (by rw [hfield]; omega), hfield, hseq, hcmd,
    if_neg (by omega),
    unpack6699_eq C build htot (by omega) (by rw [htot]; omega), hstop, hbody, haad]
  dsimp only
  rw [if_neg (by rw [List.length_append]; omega), List.take_left' hiv, List.drop_left' hiv, hnew,
    Outcome.ok_bind, hdec, Outcome.ok_bind]

end Decoded6699

theorem splitRetcode_retcodeBytes (retcode : Option UInt32) (payload : Bytes) :
    splitRetcode (sniff6699 (retcodeBytes retcode ++ payload) (some retcode.isNone))
      (retcodeBytes retcode ++ payload) = (retcode, payload) := by
  cases retcode with
  | none => rfl
  | some rc =>
    have h4 : 4 ≤ (writeU32 rc ++ payload).length := by simp
    have hr : readU32 (writeU32 rc ++ payload) = rc := readU32_writeU32 rc payload
    have hd : (writeU32 rc ++ payload).drop 4 = payload := rfl
    simp [splitRetcode, sniff6699, retcodeBytes, hr, hd]

/-- Both layouts decode to the message that was packed, for every sequence number,
command, payload and trailing bytes, as long as the frame length fits in 32 bits. -/
theorem unpack_pack_message (hC : C.GcmLaw) (randomIv : U8Array 12) (seqno cmd : UInt32)
    (payload trailing : Bytes) :
    (∀ hmacKey iv : Option Bytes, payload.length + 16 + endLen hmacKey < 2 ^ 32 →
      ∃ frame, packMessage C build randomIv ⟨seqno, cmd, none, payload, prefix55aa, iv⟩ hmacKey
          = .ok frame ∧
        unpackMessage C build (frame ++ trailing) hmacKey none (some true)
          = .ok ⟨seqno, cmd, none, payload, prefix55aa, none⟩ ∧
        unpackMessage C build (frame ++ trailing) hmacKey none (some false)
          = .ok (if 4 ≤ payload.length then
              ⟨seqno, cmd, some (readU32 payload), payload.drop 4, prefix55aa, none⟩
            else ⟨seqno, cmd, none, payload, prefix55aa, none⟩)) ∧
    (∀ (key : Key) (iv : U8Array 12) (retcode : Option UInt32),
      (retcodeBytes retcode ++ payload).length + 50 < 2 ^ 32 →
      ∃ frame, packMessage C build randomIv
          ⟨seqno, cmd, retcode, payload, prefix6699, some iv.val⟩ (some key.val) = .ok frame ∧
        unpackMessage C build (frame ++ trailing) (some key.val) none (some retcode.isNone)
          = .ok ⟨seqno, cmd, retcode, payload, prefix6699, some iv.val⟩) := by
  constructor
  · intro hmacKey iv hfit
    have hpack := pack55aa_eq C build seqno cmd iv hfit
    have hread := unpack_frame55aa C build seqno cmd trailing hfit
    refine ⟨_, hpack, ?_, ?_⟩
    · exact hread (some true)
    · rw [hread (some false)]
      by_cases h4 : 4 ≤ payload.length <;> simp [splitRetcode, sniff55aa, h4]
  · intro key iv retcode hfit
    obtain ⟨c, hc, hpack, hdec⟩ := pack6699_eq C hC seqno cmd key iv randomIv hfit
    refine ⟨_, hpack, ?_⟩
    rw [unpack_frame6699 C build hc hfit rfl hdec, splitRetcode_retcodeBytes]

/-- A control message of a device, under its HMAC key and under its cipher key. -/
theorem control_frame_roundtrip :
    (∃ frame, packMessage KnownAnswers.crates .release KnownAnswers.sampleIv
        ⟨1, 13, none, KnownAnswers.samplePayload, prefix55aa, none⟩
        (some KnownAnswers.sampleKey.val) = .ok frame ∧
      unpackMessage KnownAnswers.crates .release (frame ++ [0, 1])
        (some KnownAnswers.sampleKey.val) none (some true)
        = .ok ⟨1, 13, none, KnownAnswers.samplePayload, prefix55aa, none⟩) ∧
    (∃ frame, packMessage KnownAnswers.crates .release KnownAnswers.sampleIv
        ⟨1, 13, none, KnownAnswers.samplePayload, prefix6699, some KnownAnswers.sampleIv.val⟩
        (some KnownAnswers.sampleKey.val) = .ok frame ∧
      unpackMessage KnownAnswers.crates .release (frame ++ [0, 1])
        (some KnownAnswers.sampleKey.val) none (some true)
        = .ok ⟨1, 13, none, KnownAnswers.samplePayload, prefix6699,
            some KnownAnswers.sampleIv.val⟩) := by
  obtain ⟨h55, h66⟩ := unpack_pack_message KnownAnswers.crates .release KnownAnswers.gcmLaw
    KnownAnswers.sampleIv 1 13 KnownAnswers.samplePayload [0, 1]
  constructor
  · obtain ⟨frame, hpack, htrue, -⟩ := h55 (some KnownAnswers.sampleKey.val) none (by decide)
    exact ⟨frame, hpack, htrue⟩
  · exact h66 KnownAnswers.sampleKey KnownAnswers.sampleIv none (by decide)

end FrameRoundTrip
