import Rustuya.KnownAnswers
import Rustuya.Message

/-!
# Panic freedom of the frame decoder

The decoder is reduced to a closed form on every input whose declared length holds
a footer. The remaining inputs are the 55AA frames that declare less than a keyed
footer: there the end of the payload lies before the start of the frame.
-/
namespace FrameSafety

open CheckedExecution ByteCodec Error Crypto Message

variable (C : Crates) (build : Build)

def lengthField (data : Bytes) (headerLen : Nat) : UInt32 := readU32 (data.drop (headerLen - 4))

/-- The additions of `parseHeader` stay within 32 bits. -/
structure LengthFits (data : Bytes) : Prop where
  frame55aa : 16 ≤ data.length → readU32 data = prefix55aa →
    (lengthField data 16).toNat + 16 < 2 ^ 32
  frame6699 : 18 ≤ data.length → readU32 data = prefix6699 →
    (lengthField data 18).toNat + 22 < 2 ^ 32

theorem prefix_ne : prefix6699 ≠ prefix55aa := by decide

theorem parseHeader_short {data : Bytes} (h : data.length < 16) :
    parseHeader build data = .err (.decodeError "Header too short") := if_pos h

theorem cursorU32_drop (data : Bytes) (i : Nat) (h : i + 4 ≤ data.length) :
    cursorU32 (data.drop i) = .ok (readU32 (data.drop i), data.drop (i + 4)) := by
  rw [cursorU32, if_pos (by rw [List.length_drop]; omega), List.drop_drop]

theorem cursorU16_drop (data : Bytes) (i : Nat) (h : i + 2 ≤ data.length) :
    cursorU16 (data.drop i) = .ok (data.drop (i + 2)) := by
  rw [cursorU16, if_pos (by rw [List.length_drop]; omega), List.drop_drop]

theorem parseHeader_55aa_eq {data : Bytes} (h : 16 ≤ data.length)
    (hp : readU32 data = prefix55aa) :
    parseHeader build data = (do
      let totalLength ← addU32 build (lengthField data 16) 16
      .ok
        { msgPrefix := prefix55aa, seqno := readU32 (data.drop 4), cmd := readU32 (data.drop 8),
          payloadLen := lengthField data 16, totalLength }) := by
  have h0 := cursorU32_drop data 0 (by omega)
  have h4 := cursorU32_drop data 4 (by omega)
  have h8 := cursorU32_drop data 8 (by omega)
  have h12 := cursorU32_drop data 12 (by omega)
  simp only [List.drop_zero] at h0
  rw [parseHeader, if_neg (by omega), h0, Outcome.ok_bind]
  simp only [hp, if_true, h4, h8, h12, Outcome.ok_bind, lengthField]

theorem parseHeader_55aa {data : Bytes} (h : 16 ≤ data.length) (hp : readU32 data = prefix55aa)
    (hfit : (lengthField data 16).toNat + 16 < 2 ^ 32) :
    parseHeader build data = .ok
      { msgPrefix := prefix55aa, seqno := readU32 (data.drop 4), cmd := readU32 (data.drop 8),
        payloadLen := lengthField data 16, totalLength := lengthField data 16 + 16 } := by
  have hadd : addU32 build (lengthField data 16) 16
      = (.ok (lengthField data 16 + 16) : Result UInt32) := addU32_of_lt build hfit
  rw [parseHeader_55aa_eq build h hp, hadd, Outcome.ok_bind]

theorem parseHeader_6699_eq {data : Bytes} (h : 18 ≤ data.length)
    (hp : readU32 data = prefix6699) :
    parseHeader build data = (do
      let withHeader ← addU32 build (lengthField data 18) 18
      let totalLength ← addU32 build withHeader 4
      .ok
        { msgPrefix := prefix6699, seqno := readU32 (data.drop 6), cmd := readU32 (data.drop 10),
          payloadLen := lengthField data 18, totalLength }) := by
  have h0 := cursorU32_drop data 0 (by omega)
  have h4 := cursorU16_drop data 4 (by omega)
  have h6 := cursorU32_drop data 6 (by omega)
  have h10 := cursorU32_drop data 10 (by omega)
  have h14 := cursorU32_drop data 14 (by omega)
  simp only [List.drop_zero] at h0
  rw [parseHeader, if_neg (by omega), h0, Outcome.ok_bind]
  simp only [hp, prefix_ne, if_false, if_true, h4, h6, h10, h14, Outcome.ok_bind, lengthField]
  rw [if_neg (by omega)]

theorem parseHeader_6699 {data : Bytes} (h : 18 ≤ data.length) (hp : readU32 data = prefix6699)
    (hfit : (lengthField data 18).toNat + 22 < 2 ^ 32) :
    parseHeader build data = .ok
      { msgPrefix := prefix6699, seqno := readU32 (data.drop 6), cmd := readU32 (data.drop 10),
        payloadLen := lengthField data 18, totalLength := lengthField data 18 + 18 + 4 } := by
  have h18 : (18 : UInt32).toNat = 18 := rfl
  have hadd : addU32 build (lengthField data 18) 18
      = (.ok (lengthField data 18 + 18) : Result UInt32) :=
    addU32_of_lt build (by rw [h18]; omega)
  have hadd' : addU32 build (lengthField data 18 + 18) 4
      = (.ok (lengthField data 18 + 18 + 4) : Result UInt32) := by
    apply addU32_of_lt build
    rw [UInt32.toNat_add, h18, Nat.mod_eq_of_lt (by omega)]
    change _ + 4 < _
    omega
  rw [parseHeader_6699_eq build h hp, hadd, Outcome.ok_bind, hadd', Outcome.ok_bind]

theorem parseHeader_6699_short {data : Bytes} (h : 16 ≤ data.length) (h' : data.length < 18)
    (hp : readU32 data = prefix6699) :
    parseHeader build data = .err (.decodeError "6699 header too short") := by
  have h0 := cursorU32_drop data 0 (by omega)
  simp only [List.drop_zero] at h0
  rw [parseHeader, if_neg (by omega), h0, Outcome.ok_bind]
  simp only [hp, prefix_ne, if_false, if_true, if_pos h']

theorem parseHeader_other {data : Bytes} (h : 16 ≤ data.length)
    (h₁ : readU32 data ≠ prefix55aa) (h₂ : readU32 data ≠ prefix6699) :
    parseHeader build data = .err .invalidHeader := by
  have h0 := cursorU32_drop data 0 (by omega)
  simp only [List.drop_zero] at h0
  rw [parseHeader, if_neg (by omega), h0, Outcome.ok_bind]
  simp only [h₁, h₂, if_false]

def endLen (hmacKey : Option Bytes) : Nat := if hmacKey.isSome then 32 + 4 else 4 + 4

theorem endLen_le (hmacKey : Option Bytes) : 8 ≤ endLen hmacKey ∧ endLen hmacKey ≤ 36 := by
  unfold endLen
  split <;> omega

/-- The retcode decision as a function of the body alone. -/
def sniff55aa (body : Bytes) : Option Bool → Bool
  | some no => !no
  | none => decide (4 ≤ body.length) && (body.headD 0 != 0x7b &&
      (body.headD 0 == 0 || (decide (4 < body.length) && body.headD 0 != 0x33)))

def sniff6699 (body : Bytes) : Option Bool → Bool
  | some no => !no
  | none => decide (4 < body.length) && (body.headD 0 != 0x7b &&
      ((body.drop 4).headD 0 == 0x7b || (body.drop 4).headD 0 == 0x33))

/-- A body is its return code, if one is taken, followed by the payload. -/
def splitRetcode (parse : Bool) (body : Bytes) : Option UInt32 × Bytes :=
  if parse && decide (4 ≤ body.length) then (some (readU32 body), body.drop 4) else (none, body)

theorem headD_eq_getElem {body : Bytes} (h : 0 < body.length) : body.headD 0 = body[0] := by
  cases body with
  | nil => simp at h
  | cons b rest => rfl

theorem shouldParseRetcode55aa_eq {data : Bytes} {start stop : Nat} (hs : start ≤ stop)
    (hd : stop ≤ data.length) (mode : Option Bool) :
    shouldParseRetcode55aa build data start stop mode
      = .ok (sniff55aa ((data.take stop).drop start) mode) := by
  have hl : ((data.take stop).drop start).length = stop - start := by
    rw [List.length_drop, List.length_take, Nat.min_eq_left hd]
  cases mode with
  | some no => rfl
  | none =>
    rw [shouldParseRetcode55aa, subUsize_of_le build hs, Outcome.ok_bind, sniff55aa, hl]
    by_cases h4 : 4 ≤ stop - start
    · have hi : start < data.length := by omega
      have hfirst : ((data.take stop).drop start).headD 0 = data[start] := by
        rw [headD_eq_getElem (by omega), List.getElem_drop, List.getElem_take]
        rfl
      rw [if_pos h4, index_of_lt hi, hfirst]
      simp [h4]
    · simp [h4]

theorem shouldParseRetcode6699_eq (payload : Bytes) (mode : Option Bool) :
    shouldParseRetcode6699 payload mode = .ok (sniff6699 payload mode) := by
  cases mode with
  | some no => rfl
  | none =>
    rw [shouldParseRetcode6699, sniff6699]
    by_cases h4 : 4 ≤ payload.length
    · have hfirst : payload.headD 0 = payload[0] := headD_eq_getElem (by omega)
      rw [if_pos h4, index_of_lt (by omega), hfirst, Outcome.ok_bind]
      by_cases h5 : 4 < payload.length
      · have hfifth : (payload.drop 4).headD 0 = payload[4] := by
          rw [headD_eq_getElem (by rw [List.length_drop]; omega), List.getElem_drop]
        rw [index_of_lt h5, hfifth]
        by_cases hb : payload[0] = 0x7b <;> simp [h5, hb]
      · simp [h5]
    · rw [if_neg h4, decide_eq_false (by omega), Bool.false_and]

theorem unpack55aa_eq {data : Bytes} {hmacKey : Option Bytes} {header : TuyaHeader}
    {stop : Nat} (hstop : header.totalLength.toNat = stop + endLen hmacKey)
    (hbody : 16 ≤ stop) (hdata : header.totalLength.toNat ≤ data.length) (mode : Option Bool) :
    unpack55aa C build data hmacKey header mode = (do
      checkFooter C hmacKey (data.take stop)
        ((data.take header.totalLength.toNat).drop stop)
      let body := (data.take stop).drop 16
      let (retcode, payload) := splitRetcode (sniff55aa body mode) body
      .ok { seqno := header.seqno, cmd := header.cmd, retcode, payload,
            msgPrefix := header.msgPrefix, iv := none }) := by
  have ht := header.totalLength.toNat_lt
  have hmax : isizeMax = 2 ^ 63 - 1 := rfl
  have hlen : ((data.take stop).drop 16).length = stop - 16 := by
    rw [List.length_drop, List.length_take, Nat.min_eq_left (by omega)]
  have hsub : (subUsize build header.totalLength.toNat (endLen hmacKey) : Result Nat)
      = .ok stop := by
    rw [subUsize_of_le build (by omega), hstop, Nat.add_sub_cancel]
  have hs₁ : (slice data 0 stop : Result Bytes) = .ok (data.take stop) := by
    rw [slice_of_le (by omega) (by omega) (by omega), List.drop_zero]
  have hs₂ : (slice data stop header.totalLength.toNat : Result Bytes)
      = .ok ((data.take header.totalLength.toNat).drop stop) :=
    slice_of_le (by omega) hdata (by omega)
  rw [unpack55aa]
  change (subUsize build header.totalLength.toNat (endLen hmacKey) >>= _) = _
  rw [hsub, Outcome.ok_bind, if_neg (by omega), shouldParseRetcode55aa_eq build hbody (by omega),
    Outcome.ok_bind, subUsize_of_le build hbody, Outcome.ok_bind]
  simp only [splitRetcode, hlen, hs₁, hs₂, Outcome.ok_bind]
  by_cases hp : (sniff55aa ((data.take stop).drop 16) mode && decide (4 ≤ stop - 16)) = true
  · have h4 : 4 ≤ stop - 16 := by simp at hp; omega
    have hw : (slice data 16 (16 + 4) : Result Bytes) = .ok ((data.take 20).drop 16) :=
      slice_of_le (by omega) (by omega) (by omega)
    have hr : readU32 ((data.take 20).drop 16) = readU32 ((data.take stop).drop 16) := by
      rw [List.drop_take, List.drop_take, readU32_take (by omega), readU32_take (by omega)]
    have hpay : (slice data (16 + 4) stop : Result Bytes)
        = .ok (((data.take stop).drop 16).drop 4) := by
      rw [slice_of_le (by omega) (by omega) (by omega), List.drop_drop]
    simp only [hp, if_true, hw, Outcome.ok_bind, hpay, hr]
  · have hpay : (slice data 16 stop : Result Bytes) = .ok ((data.take stop).drop 16) :=
      slice_of_le hbody (by omega) (by omega)
    simp only [hp, if_false, Outcome.ok_bind, hpay, Bool.false_eq_true]

theorem checkFooter_returns {hmacKey : Option Bytes} {footer : Bytes}
    (h : footer.length = endLen hmacKey) (checksumData : Bytes) :
    (checkFooter C hmacKey checksumData footer).ReturnsWith NotIo := by
  have hmax : isizeMax = 2 ^ 63 - 1 := rfl
  cases hmacKey with
  | some key =>
    have hl : footer.length = 36 := h
    rw [checkFooter, slice_of_le (by omega) (by omega) (by omega), Outcome.ok_bind]
    split
    · exact rfl
    · trivial
  | none =>
    have hl : footer.length = 8 := h
    rw [checkFooter, slice_of_le (by omega) (by omega) (by omega), Outcome.ok_bind]
    split
    · exact rfl
    · trivial

theorem new_returns (key : Bytes) : (TuyaCipher.new key).ReturnsWith NotIo := by
  unfold TuyaCipher.new
  split
  · trivial
  · exact rfl

theorem decrypt_gcm_returns (cipher : TuyaCipher) (data : Bytes) {iv : Bytes}
    (h : iv.length = 12) (header : Option Bytes) :
    (cipher.decrypt C data false (some iv) header).ReturnsWith NotIo := by
  have hs : (slice iv 0 12 : Result Bytes) = .ok iv := by
    rw [slice_of_le (by omega) (by omega) (by decide)]
    simp [List.take_of_length_le (Nat.le_of_eq h)]
  simp only [TuyaCipher.decrypt, Bool.false_eq_true, if_false, Outcome.ok_bind, hs, h, dif_pos]
  exact Outcome.returnsWith_okOr (P := NotIo) rfl _

theorem unpack6699_eq {data key : Bytes} {header : TuyaHeader} {stop : Nat}
    (hstop : header.totalLength.toNat = stop + 4) (hbody : 18 ≤ stop)
    (hdata : header.totalLength.toNat ≤ data.length) (mode : Option Bool) :
    unpack6699 C build data (some key) header mode =
      (let body := (data.take stop).drop 18
      if body.length < 28 then .err .invalidPayload
      else do
        let cipher ← TuyaCipher.new key
        let decrypted ← cipher.decrypt C (body.drop 12) false (some (body.take 12))
          (some ((data.take 18).drop 4))
        let (retcode, payload) := splitRetcode (sniff6699 decrypted mode) decrypted
        .ok { seqno := header.seqno, cmd := header.cmd, retcode, payload,
              msgPrefix := header.msgPrefix, iv := some (body.take 12) }) := by
  have ht := header.totalLength.toNat_lt
  have hmax : isizeMax = 2 ^ 63 - 1 := rfl
  have hlen : ((data.take stop).drop 18).length = stop - 18 := by
    rw [List.length_drop, List.length_take, Nat.min_eq_left (by omega)]
  have hsub : (subUsize build header.totalLength.toNat 4 : Result Nat) = .ok stop := by
    rw [subUsize_of_le build (by omega), hstop, Nat.add_sub_cancel]
  have hs₁ : (slice data 18 stop : Result Bytes) = .ok ((data.take stop).drop 18) :=
    slice_of_le hbody (by omega) (by omega)
  have hs₂ : (slice data 4 18 : Result Bytes) = .ok ((data.take 18).drop 4) :=
    slice_of_le (by omega) (by omega) (by omega)
  rw [unpack6699, Outcome.okOr_some, Outcome.ok_bind]
  simp only [hsub, hs₁, hs₂, Outcome.ok_bind]
  by_cases hshort : ((data.take stop).drop 18).length < 28
  · rw [if_pos hshort, if_pos hshort]
  have hs₃ : (slice ((data.take stop).drop 18) 0 12 : Result Bytes)
      = .ok (((data.take stop).drop 18).take 12) := by
    rw [slice_of_le (by omega) (by omega) (by omega), List.drop_zero]
  have hs₄ : (sliceFrom ((data.take stop).drop 18) 12 : Result Bytes)
      = .ok (((data.take stop).drop 18).drop 12) := sliceFrom_of_le (by omega)
  rw [if_neg hshort, if_neg hshort, hs₃, hs₄]
  simp only [Outcome.ok_bind]
  cases TuyaCipher.new key with
  | err e => rfl
  | panic => rfl
  | ok cipher =>
    simp only [Outcome.ok_bind]
    cases cipher.decrypt C (((data.take stop).drop 18).drop 12) false
        (some (((data.take stop).drop 18).take 12)) (some ((data.take 18).drop 4)) with
    | err e => rfl
    | panic => rfl
    | ok decrypted =>
      simp only [Outcome.ok_bind, shouldParseRetcode6699_eq, splitRetcode]
      by_cases hp : (sniff6699 decrypted mode && decide (4 ≤ decrypted.length)) = true
      · have h4 : 4 ≤ decrypted.length := by simp at hp; omega
        have hw : (slice decrypted 0 4 : Result Bytes) = .ok (decrypted.take 4) := by
          rw [slice_of_le (by omega) h4 (by omega), List.drop_zero]
        simp only [hp, if_true, hw, sliceFrom_of_le h4, Outcome.ok_bind, readU32_take le_rfl]
      · simp only [hp, if_false, Bool.false_eq_true]

/-- A 55AA frame read under a key although it declares less than a keyed footer. -/
def Undersized (data : Bytes) (hmacKey : Option Bytes) : Prop :=
  hmacKey.isSome ∧ 16 ≤ data.length ∧ readU32 data = prefix55aa ∧
    (lengthField data 16).toNat < 20 ∧ (lengthField data 16).toNat + 16 ≤ data.length

instance (data : Bytes) (hmacKey : Option Bytes) : Decidable (Undersized data hmacKey) :=
  inferInstanceAs (Decidable (_ ∧ _ ∧ _ ∧ _ ∧ _))

theorem toNat_add_16 {n : UInt32} (h : n.toNat + 16 < 2 ^ 32) :
    (n + 16).toNat = n.toNat + 16 := by
  have h16 : (16 : UInt32).toNat = 16 := rfl
  rw [UInt32.toNat_add, h16, Nat.mod_eq_of_lt h]

theorem toNat_add_22 {n : UInt32} (h : n.toNat + 22 < 2 ^ 32) :
    (n + 18 + 4).toNat = n.toNat + 22 := by
  have h18 : (18 : UInt32).toNat = 18 := rfl
  have h4 : (4 : UInt32).toNat = 4 := rfl
  rw [UInt32.toNat_add, UInt32.toNat_add, h18, h4]
  omega

theorem shouldParseRetcode55aa_ne_err {data : Bytes} {start stop : Nat} (h : start ≤ stop)
    (mode : Option Bool) (e : TuyaError) :
    shouldParseRetcode55aa build data start stop mode ≠ .err e := by
  cases mode with
  | some no => intro hc; cases hc
  | none =>
    rw [shouldParseRetcode55aa, subUsize_of_le build h, Outcome.ok_bind]
    split
    · rw [index]
      cases data[start]? <;> intro hc <;> cases hc
    · intro hc; cases hc

/-- The payload end of an undersized frame is negative: it panics at once with
overflow checks, and without them it is a bound that no slice reaches. -/
theorem unpack55aa_undersized {data : Bytes} {hmacKey : Option Bytes} {header : TuyaHeader}
    (h : header.totalLength.toNat < endLen hmacKey) (mode : Option Bool) :
    unpack55aa C build data hmacKey header mode = .panic := by
  have hend := endLen_le hmacKey
  have hmax : isizeMax = 2 ^ 63 - 1 := rfl
  rw [unpack55aa]
  change (subUsize build header.totalLength.toNat (endLen hmacKey) >>= _) = _
  rcases subUsize_of_lt (ε := TuyaError) build h (by omega) with hp | ⟨stop, hs, hbig⟩
  · rw [hp, Outcome.panic_bind]
  have hno : ∀ i, (slice data i stop : Result Bytes) = .panic := fun i => slice_past_max hbig
  rw [hs, Outcome.ok_bind, if_neg (by omega)]
  cases hq : shouldParseRetcode55aa build data 16 stop mode with
  | panic => rfl
  | err e => exact (shouldParseRetcode55aa_ne_err build (by omega) mode e hq).elim
  | ok parse =>
    rw [Outcome.ok_bind, subUsize_of_le build (by omega), Outcome.ok_bind]
    split
    · by_cases hc : 16 ≤ 16 + 4 ∧ 16 + 4 ≤ data.length ∧ 16 + 4 ≤ isizeMax
      · have hw : (slice data 16 (16 + 4) : Result Bytes) = .ok ((data.take 20).drop 16) :=
          if_pos hc
        simp only [hw, Outcome.ok_bind, hno, Outcome.panic_bind]
      · have hw : (slice data 16 (16 + 4) : Result Bytes) = .panic := if_neg hc
        simp only [hw, Outcome.panic_bind]
    · simp only [Outcome.ok_bind, hno, Outcome.panic_bind]

theorem unpack55aa_short {data : Bytes} {hmacKey : Option Bytes} {header : TuyaHeader}
    {stop : Nat} (hstop : header.totalLength.toNat = stop + endLen hmacKey) (hbody : stop < 16)
    (mode : Option Bool) :
    unpack55aa C build data hmacKey header mode
      = .err (.decodeError s!"Payload end ({stop}) is before header end ({16})") := by
  have hsub : (subUsize build header.totalLength.toNat (endLen hmacKey) : Result Nat)
      = .ok stop := by
    rw [subUsize_of_le build (by omega), hstop, Nat.add_sub_cancel]
  rw [unpack55aa]
  change (subUsize build header.totalLength.toNat (endLen hmacKey) >>= _) = _
  rw [hsub, Outcome.ok_bind, if_pos hbody]

theorem unpack55aa_returns {data : Bytes} {hmacKey : Option Bytes} {header : TuyaHeader}
    (h : endLen hmacKey ≤ header.totalLength.toNat)
    (hdata : header.totalLength.toNat ≤ data.length) (mode : Option Bool) :
    (unpack55aa C build data hmacKey header mode).ReturnsWith NotIo := by
  obtain ⟨stop, hstop⟩ : ∃ stop, header.totalLength.toNat = stop + endLen hmacKey :=
    ⟨_, (Nat.sub_add_cancel h).symm⟩
  by_cases hbody : 16 ≤ stop
  · rw [unpack55aa_eq C build hstop hbody hdata]
    apply Outcome.ReturnsWith.bind
    · apply checkFooter_returns
      rw [List.length_drop, List.length_take, Nat.min_eq_left hdata]
      omega
    · intro _ _
      trivial
  · rw [unpack55aa_short C build hstop (Nat.not_le.mp hbody)]
    exact rfl

theorem unpack6699_undersized {data key : Bytes} {header : TuyaHeader}
    (h : header.totalLength.toNat < 22) (mode : Option Bool) :
    unpack6699 C build data (some key) header mode = .panic := by
  have hno : ∀ stop, stop < 18 ∨ isizeMax < stop →
      (slice data 18 stop : Result Bytes) = .panic := by
    intro stop hstop
    refine if_neg fun hc => ?_
    omega
  rw [unpack6699, Outcome.okOr_some, Outcome.ok_bind]
  dsimp only
  by_cases h4 : 4 ≤ header.totalLength.toNat
  · rw [subUsize_of_le build h4, Outcome.ok_bind, hno _ (.inl (by omega)), Outcome.panic_bind]
  · rcases subUsize_of_lt (ε := TuyaError) build (Nat.not_le.mp h4) (by omega) with
      hp | ⟨stop, hs, hbig⟩
    · rw [hp, Outcome.panic_bind]
    · rw [hs, Outcome.ok_bind, hno stop (.inr hbig), Outcome.panic_bind]

theorem unpack6699_returns {data : Bytes} {hmacKey : Option Bytes} {header : TuyaHeader}
    (h : 22 ≤ header.totalLength.toNat) (hdata : header.totalLength.toNat ≤ data.length)
    (mode : Option Bool) :
    (unpack6699 C build data hmacKey header mode).ReturnsWith NotIo := by
  cases hmacKey with
  | none => exact rfl
  | some key =>
    obtain ⟨stop, hstop⟩ : ∃ stop, header.totalLength.toNat = stop + 4 :=
      ⟨_, (Nat.sub_add_cancel (by omega)).symm⟩
    rw [unpack6699_eq C build hstop (by omega) hdata]
    dsimp only
    split
    · exact rfl
    · rename_i hlong
      apply Outcome.ReturnsWith.bind (new_returns key)
      intro cipher _
      apply Outcome.ReturnsWith.bind
      · apply decrypt_gcm_returns
        rw [List.length_take]
        omega
      · intro decrypted _
        trivial

theorem isSome_iff_endLen (hmacKey : Option Bytes) :
    hmacKey.isSome = true ↔ endLen hmacKey = 36 := by
  cases hmacKey <;> simp [endLen]

theorem unpackMessage_55aa {data : Bytes} (h16 : 16 ≤ data.length)
    (h55 : readU32 data = prefix55aa) (hf : (lengthField data 16).toNat + 16 < 2 ^ 32)
    (hmacKey : Option Bytes) (mode : Option Bool) :
    unpackMessage C build data hmacKey none mode =
      if data.length < (lengthField data 16).toNat + 16 then
        .err (.decodeError "Data shorter than expected")
      else unpack55aa C build data hmacKey
        { msgPrefix := prefix55aa, seqno := readU32 (data.drop 4), cmd := readU32 (data.drop 8),
          payloadLen := lengthField data 16, totalLength := lengthField data 16 + 16 } mode := by
  have hr := parseHeader_55aa build h16 h55 hf
  simp only [unpackMessage, hr, Outcome.ok_bind, if_true, toNat_add_16 hf]

theorem unpackMessage_6699 {data : Bytes} (h18 : 18 ≤ data.length)
    (h66 : readU32 data = prefix6699) (hf : (lengthField data 18).toNat + 22 < 2 ^ 32)
    (hmacKey : Option Bytes) (mode : Option Bool) :
    unpackMessage C build data hmacKey none mode =
      if data.length < (lengthField data 18).toNat + 22 then
        .err (.decodeError "Data shorter than expected")
      else unpack6699 C build data hmacKey
        { msgPrefix := prefix6699, seqno := readU32 (data.drop 6), cmd := readU32 (data.drop 10),
          payloadLen := lengthField data 18, totalLength := lengthField data 18 + 18 + 4 }
        mode := by
  have hr := parseHeader_6699 build h18 h66 hf
  simp only [unpackMessage, hr, Outcome.ok_bind, prefix_ne, if_true, if_false, toNat_add_22 hf]

theorem returns_iff_55aa {data : Bytes} (h16 : 16 ≤ data.length)
    (h55 : readU32 data = prefix55aa) (hf : (lengthField data 16).toNat + 16 < 2 ^ 32)
    (hmacKey : Option Bytes) (mode : Option Bool) :
    (unpackMessage C build data hmacKey none mode).Returns ↔ ¬ Undersized data hmacKey := by
  have hend := endLen_le hmacKey
  have ht := toNat_add_16 hf
  rw [unpackMessage_55aa C build h16 h55 hf]
  by_cases hlong : (lengthField data 16).toNat + 16 ≤ data.length
  swap
  · have hu : ¬ Undersized data hmacKey := fun h => hlong h.2.2.2.2
    rw [if_pos (by omega)]
    exact iff_of_true (Outcome.returns_err _) hu
  rw [if_neg (by omega)]
  by_cases hroom : endLen hmacKey ≤ (lengthField data 16).toNat + 16
  · have hu : ¬ Undersized data hmacKey := by
      rintro ⟨hk, -, -, h20, -⟩
      have := (isSome_iff_endLen hmacKey).mp hk
      omega
    refine iff_of_true (unpack55aa_returns C build ?_ ?_ mode).returns hu
    · rw [ht]; exact hroom
    · rw [ht]; exact hlong
  · have hk : hmacKey.isSome = true := by
      by_contra hk
      have h8 : endLen hmacKey = 8 := if_neg hk
      omega
    rw [unpack55aa_undersized C build (by rw [ht]; omega)]
    exact iff_of_false (fun h => h rfl) (fun h => h ⟨hk, h16, h55, by omega, hlong⟩)

theorem returns_6699 {data : Bytes} (h16 : 16 ≤ data.length)
    (h66 : readU32 data = prefix6699)
    (hf : 18 ≤ data.length → (lengthField data 18).toNat + 22 < 2 ^ 32)
    (hmacKey : Option Bytes) (mode : Option Bool) :
    (unpackMessage C build data hmacKey none mode).Returns := by
  by_cases h18 : 18 ≤ data.length
  · have ht := toNat_add_22 (hf h18)
    rw [unpackMessage_6699 C build h18 h66 (hf h18)]
    split
    · exact Outcome.returns_err _
    · apply Outcome.ReturnsWith.returns (unpack6699_returns C build ?_ ?_ mode)
      · rw [ht]; omega
      · rw [ht]; omega
  · have hr := parseHeader_6699_short build h16 (Nat.not_le.mp h18) h66
    simp [unpackMessage, hr]

/-- For every datagram, key, mode and build, decoding returns a message or an error
except on the undersized frames, where it panics. With overflow checks a call that
returns has computed no negative difference. -/
theorem unpack_message_returns_iff {data : Bytes} (hfit : LengthFits data) (key : Option Key)
    (mode : Option Bool) :
    (unpackMessage C build data (key.map Subtype.val) none mode).Returns ↔
      ¬ Undersized data (key.map Subtype.val) := by
  by_cases h16 : 16 ≤ data.length
  swap
  · have hr := parseHeader_short build (Nat.not_le.mp h16)
    simp [unpackMessage, hr, Undersized, h16]
  by_cases h55 : readU32 data = prefix55aa
  · exact returns_iff_55aa C build h16 h55 (hfit.frame55aa h16 h55) _ mode
  have hu : ¬ Undersized data (key.map Subtype.val) := fun h => h55 h.2.2.1
  refine iff_of_true ?_ hu
  by_cases h66 : readU32 data = prefix6699
  · exact returns_6699 C build h16 h66 (fun h18 => hfit.frame6699 h18 h66) _ mode
  · have hr := parseHeader_other build h16 h55 h66
    simp [unpackMessage, hr]

def heartbeatAck : Bytes :=
  [0x00, 0x00, 0x55, 0xaa, 0x00, 0x00, 0x00, 0x01, 0x00, 0x00, 0x00, 0x09,
    0x00, 0x00, 0x00, 0x0c, 0x00, 0x00, 0x00, 0x00, 0x6d, 0xc7, 0x72, 0x86,
    0x00, 0x00, 0xaa, 0x55]

def udpKey34 : Key :=
  ⟨[0x6c, 0x1e, 0xc8, 0xe2, 0xbb, 0x9b, 0xb5, 0x9a, 0xb5, 0x0b, 0x0d, 0xaf, 0x64, 0x9b, 0x41,
    0x0a], rfl⟩

theorem heartbeatAck_fits : LengthFits heartbeatAck :=
  ⟨fun _ _ => by decide, fun _ h => absurd h (by decide)⟩

/-- Without a key the same datagram is decoded. -/
theorem heartbeat_ack_without_key : LengthFits heartbeatAck ∧
    (unpackMessage KnownAnswers.crates .release heartbeatAck none none none).Returns :=
  ⟨heartbeatAck_fits,
    (unpack_message_returns_iff _ _ heartbeatAck_fits none none).mpr (by decide)⟩

theorem heartbeat_ack_panics : LengthFits heartbeatAck ∧
    ∀ (C : Crates) (build : Build) (mode : Option Bool),
      ¬ (unpackMessage C build heartbeatAck (some udpKey34.val) none mode).Returns := by
  refine ⟨heartbeatAck_fits, ?_⟩
  intro C build mode h
  exact (returns_iff_55aa C build (by decide) (by decide) (by decide) _ mode).mp h (by decide)

end FrameSafety
