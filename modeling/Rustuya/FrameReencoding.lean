import Rustuya.FrameRoundTrip

/-!
# What the decoder accepts

The decoder drops nothing and accepts nothing that the encoder could not have produced: the
bytes of an accepted frame are those of the message it was decoded to, up to the suffix,
which is not checked. How the return code is looked for only decides where the payload
begins.
-/
namespace FrameReencoding

open CheckedExecution ByteCodec Error Crypto Message FrameSafety FrameRoundTrip

section Modes

variable (C : Crates) (build : Build) {data : Bytes} {hmacKey : Option Bytes}

def unsplit (m : TuyaMessage) : TuyaMessage :=
  { m with retcode := none, payload := retcodeBytes m.retcode ++ m.payload }

/-- Two decodings that differ at most in where the payload begins. -/
def SameFrame (x y : Result TuyaMessage) : Prop :=
  match x, y with
  | .ok m, .ok m' => unsplit m = unsplit m'
  | .err e, .err e' => e = e'
  | .panic, .panic => True
  | _, _ => False

theorem splitRetcode_join (parse : Bool) (body : Bytes) :
    retcodeBytes (splitRetcode parse body).1 ++ (splitRetcode parse body).2 = body := by
  unfold splitRetcode
  split
  next h =>
    have h4 : 4 ≤ body.length := by
      simp only [Bool.and_eq_true, decide_eq_true_eq] at h
      exact h.2
    rw [retcodeBytes, writeU32_readU32 h4, List.take_append_drop]
  · rfl

/-- What is common to the three modes: the answer of each depends on it and on the decision
about the return code alone. -/
inductive Sliced : (Option Bool → Result TuyaMessage) → Prop where
  | err (e : TuyaError) : Sliced fun _ => .err e
  | panic : Sliced fun _ => .panic
  | ok (m : TuyaMessage) (body : Bytes) (sniff : Option Bool → Bool)
      (hsniff : ∀ no, sniff (some no) = !no) :
      Sliced fun mode => .ok
        { m with retcode := (splitRetcode (sniff mode) body).1,
                 payload := (splitRetcode (sniff mode) body).2 }

theorem sliced_bind {α : Type} {x : Result α} {f : α → Option Bool → Result TuyaMessage}
    (h : ∀ a, x = .ok a → Sliced (f a)) : Sliced fun mode => x >>= fun a => f a mode := by
  cases x with
  | ok a => exact h a rfl
  | err e => exact .err e
  | panic => exact .panic

theorem sliced_55aa {header : TuyaHeader} (hdata : header.totalLength.toNat ≤ data.length) :
    Sliced (unpack55aa C build data hmacKey header) := by
  by_cases hroom : endLen hmacKey ≤ header.totalLength.toNat
  swap
  · have hpanic : ∀ mode, unpack55aa C build data hmacKey header mode = .panic :=
      unpack55aa_undersized C build (Nat.not_le.mp hroom)
    rw [funext hpanic]
    exact .panic
  obtain ⟨stop, hstop⟩ : ∃ stop, header.totalLength.toNat = stop + endLen hmacKey :=
    ⟨_, (Nat.sub_add_cancel hroom).symm⟩
  by_cases hbody : 16 ≤ stop
  · rw [funext (unpack55aa_eq C build hstop hbody hdata)]
    refine sliced_bind fun _ _ => ?_
    exact .ok ⟨header.seqno, header.cmd, none, [], header.msgPrefix, none⟩ _ (sniff55aa _)
      fun _ => rfl
  · rw [funext (unpack55aa_short C build hstop (Nat.not_le.mp hbody))]
    exact .err _

theorem sliced_6699 {header : TuyaHeader} (hdata : header.totalLength.toNat ≤ data.length) :
    Sliced (unpack6699 C build data hmacKey header) := by
  cases hmacKey with
  | none => exact .err _
  | some key =>
    by_cases hroom : 22 ≤ header.totalLength.toNat
    swap
    · have hpanic : ∀ mode, unpack6699 C build data (some key) header mode = .panic :=
        unpack6699_undersized C build (Nat.not_le.mp hroom)
      rw [funext hpanic]
      exact .panic
    obtain ⟨stop, hstop⟩ : ∃ stop, header.totalLength.toNat = stop + 4 :=
      ⟨_, (Nat.sub_add_cancel (by omega)).symm⟩
    rw [funext (unpack6699_eq C build hstop (by omega) hdata)]
    dsimp only
    split
    · exact .err _
    · refine sliced_bind fun cipher _ => sliced_bind fun decrypted _ => ?_
      exact .ok ⟨header.seqno, header.cmd, none, [], header.msgPrefix, some _⟩ _
        (sniff6699 decrypted) fun _ => rfl

theorem sliced_frame (data : Bytes) (hmacKey : Option Bytes) (header : TuyaHeader) :
    Sliced (unpackMessage C build data hmacKey (some header)) := by
  by_cases hdata : data.length < header.totalLength.toNat
  · have hshort : ∀ mode, unpackMessage C build data hmacKey (some header) mode
        = .err (.decodeError "Data shorter than expected") := fun _ => if_pos hdata
    rw [funext hshort]
    exact .err _
  by_cases h55 : header.msgPrefix = prefix55aa
  · have hframe : ∀ mode, unpackMessage C build data hmacKey (some header) mode
        = unpack55aa C build data hmacKey header mode :=
      fun _ => (if_neg hdata).trans (if_pos h55)
    rw [funext hframe]
    exact sliced_55aa C build (Nat.not_lt.mp hdata)
  by_cases h66 : header.msgPrefix = prefix6699
  · have hframe : ∀ mode, unpackMessage C build data hmacKey (some header) mode
        = unpack6699 C build data hmacKey header mode :=
      fun _ => ((if_neg hdata).trans (if_neg h55)).trans (if_pos h66)
    rw [funext hframe]
    exact sliced_6699 C build (Nat.not_lt.mp hdata)
  · have hother : ∀ mode, unpackMessage C build data hmacKey (some header) mode
        = .err .invalidHeader := fun _ => ((if_neg hdata).trans (if_neg h55)).trans (if_neg h66)
    rw [funext hother]
    exact .err _

theorem sliced_unpackMessage (data : Bytes) (hmacKey : Option Bytes)
    (header : Option TuyaHeader) : Sliced (unpackMessage C build data hmacKey header) := by
  cases header with
  | some header => exact sliced_frame C build data hmacKey header
  | none =>
    have hparse : ∀ mode, unpackMessage C build data hmacKey none mode
        = parseHeader build data >>= fun header =>
          unpackMessage C build data hmacKey (some header) mode := fun _ => rfl
    rw [funext hparse]
    exact sliced_bind fun header _ => sliced_frame C build data hmacKey header

variable {f : Option Bool → Result TuyaMessage}

theorem Sliced.sameFrame (h : Sliced f) (mode mode' : Option Bool) :
    SameFrame (f mode) (f mode') := by
  cases h with
  | err e => exact rfl
  | panic => trivial
  | ok m body sniff hsniff =>
    change unsplit _ = unsplit _
    simp only [unsplit, splitRetcode_join]

theorem Sliced.unspecified (h : Sliced f) : f none = f (some true) ∨ f none = f (some false) := by
  cases h with
  | err e => exact .inl rfl
  | panic => exact .inl rfl
  | ok m body sniff hsniff =>
    dsimp only
    rw [hsniff, hsniff]
    cases sniff none with
    | false => exact .inl rfl
    | true => exact .inr rfl

end Modes

section Reencoding

variable {C : Crates} {build : Build} {data : Bytes} {hmacKey : Option Bytes}
  {mode : Option Bool} {m : TuyaMessage}

theorem writeU32_readU32_drop {i : Nat} (h : i + 4 ≤ data.length) :
    writeU32 (readU32 (data.drop i)) = (data.drop i).take 4 :=
  writeU32_readU32 (by rw [List.length_drop]; omega)

theorem header55aa_read (h16 : 16 ≤ data.length) (h55 : readU32 data = prefix55aa) :
    header55aa (readU32 (data.drop 4)) (readU32 (data.drop 8)) (lengthField data 16)
      = data.take 16 := by
  have hword : writeU32 prefix55aa = data.take 4 := by
    rw [← h55]
    exact writeU32_readU32 (by omega)
  have hlen : writeU32 (lengthField data 16) = (data.drop 12).take 4 :=
    writeU32_readU32_drop (by omega)
  have h12 : (data.drop 8).take 8 = (data.drop 8).take 4 ++ (data.drop 12).take 4 := by
    rw [List.take_add (i := 4) (j := 4), List.drop_drop]
  have h8 : (data.drop 4).take 12 = (data.drop 4).take 4 ++ (data.drop 8).take 8 := by
    rw [List.take_add (i := 4) (j := 8), List.drop_drop]
  rw [header55aa, hword, hlen, writeU32_readU32_drop (by omega),
    writeU32_readU32_drop (by omega), ← h12, ← h8, ← List.take_add (i := 4) (j := 12)]

/-- A 6699 header is written again as it was read, if the two bytes without meaning are zero. -/
theorem header6699_read (h18 : 18 ≤ data.length) (h66 : readU32 data = prefix6699)
    (hreserved : (data.drop 4).take 2 = [0, 0]) :
    header6699Bytes (readU32 (data.drop 6)) (readU32 (data.drop 10)) (lengthField data 18)
      = data.take 18 := by
  have hword : writeU32 prefix6699 = data.take 4 := by
    rw [← h66]
    exact writeU32_readU32 (by omega)
  have hzero : writeU16 0 = (data.drop 4).take 2 := hreserved.symm
  have hlen : writeU32 (lengthField data 18) = (data.drop 14).take 4 :=
    writeU32_readU32_drop (by omega)
  have h14 : (data.drop 10).take 8 = (data.drop 10).take 4 ++ (data.drop 14).take 4 := by
    rw [List.take_add (i := 4) (j := 4), List.drop_drop]
  have h10 : (data.drop 6).take 12 = (data.drop 6).take 4 ++ (data.drop 10).take 8 := by
    rw [List.take_add (i := 4) (j := 8), List.drop_drop]
  have h6 : (data.drop 4).take 14 = (data.drop 4).take 2 ++ (data.drop 6).take 12 := by
    rw [List.take_add (i := 2) (j := 12), List.drop_drop]
  rw [header6699Bytes, hword, hzero, hlen, writeU32_readU32_drop (by omega),
    writeU32_readU32_drop (by omega), ← h14, ← h10, ← h6, ← List.take_add (i := 4) (j := 14)]

theorem footer_of_check {checksumData footer : Bytes} (hlen : footer.length = endLen hmacKey)
    (h : checkFooter C hmacKey checksumData footer = .ok ()) :
    footer55aa C hmacKey checksumData = footer.take (endLen hmacKey - 4) := by
  have hmax : isizeMax = 2 ^ 63 - 1 := rfl
  cases hmacKey with
  | some key =>
    have h36 : footer.length = 36 := hlen
    rw [checkFooter, slice_of_le (by omega) (by omega) (by omega), Outcome.ok_bind] at h
    split at h
    · cases h
    next heq => exact not_not.mp heq
  | none =>
    have h8 : footer.length = 8 := hlen
    have hslice : (slice footer 0 4 : Result Bytes) = .ok (footer.take 4) :=
      slice_of_le (by omega) (by omega) (by omega)
    rw [checkFooter, hslice, Outcome.ok_bind] at h
    split at h
    · cases h
    next heq =>
      rw [footer55aa, not_not.mp heq, readU32_take (Nat.le_refl 4)]
      exact writeU32_readU32 (by omega)

theorem unpackMessage_bind (C : Crates) (build : Build) (data : Bytes) (hmacKey : Option Bytes)
    (mode : Option Bool) :
    unpackMessage C build data hmacKey none mode
      = parseHeader build data >>= fun header =>
        unpackMessage C build data hmacKey (some header) mode := rfl

/-- An accepted 55AA frame: the sum of the length has not wrapped, the frame is complete, and
its footer is right. -/
theorem accepted_55aa (h16 : 16 ≤ data.length) (h55 : readU32 data = prefix55aa)
    (h : unpackMessage C build data hmacKey none mode = .ok m) :
    ∃ stop, 16 ≤ stop ∧ (lengthField data 16).toNat + 16 = stop + endLen hmacKey ∧
      stop + endLen hmacKey < 2 ^ 32 ∧ stop + endLen hmacKey ≤ data.length ∧
      footer55aa C hmacKey (data.take stop) = (data.drop stop).take (endLen hmacKey - 4) ∧
      (let body := (data.take stop).drop 16
      m = ⟨readU32 (data.drop 4), readU32 (data.drop 8),
        (splitRetcode (sniff55aa body mode) body).1, (splitRetcode (sniff55aa body mode) body).2,
        prefix55aa, none⟩) := by
  rw [unpackMessage_bind, parseHeader_55aa_eq build h16 h55] at h
  rcases addU32_cases (ε := TuyaError) build (lengthField data 16) 16 with hadd | hadd
  swap
  · rw [hadd] at h
    cases h
  rw [hadd, Outcome.ok_bind, Outcome.ok_bind] at h
  set header : TuyaHeader := ⟨prefix55aa, readU32 (data.drop 4), readU32 (data.drop 8),
    lengthField data 16, lengthField data 16 + 16⟩ with hheader
  have htotal : header.totalLength.toNat = ((lengthField data 16).toNat + 16) % 2 ^ 32 :=
    UInt32.toNat_add _ _
  have hlt := (lengthField data 16).toNat_lt
  have hend := endLen_le hmacKey
  by_cases hdata : data.length < header.totalLength.toNat
  · have hshort : unpackMessage C build data hmacKey (some header) mode
        = .err (.decodeError "Data shorter than expected") := if_pos hdata
    rw [hshort] at h
    cases h
  have hframe : unpackMessage C build data hmacKey (some header) mode
      = unpack55aa C build data hmacKey header mode := (if_neg hdata).trans (if_pos rfl)
  rw [hframe] at h
  by_cases hroom : endLen hmacKey ≤ header.totalLength.toNat
  swap
  · rw [unpack55aa_undersized C build (Nat.not_le.mp hroom)] at h
    cases h
  obtain ⟨stop, hstop⟩ : ∃ stop, header.totalLength.toNat = stop + endLen hmacKey :=
    ⟨_, (Nat.sub_add_cancel hroom).symm⟩
  by_cases hbody : 16 ≤ stop
  swap
  · rw [unpack55aa_short C build hstop (Nat.not_le.mp hbody)] at h
    cases h
  rw [unpack55aa_eq C build hstop hbody (Nat.not_lt.mp hdata)] at h
  obtain ⟨_, hcheck, hm⟩ := Outcome.bind_eq_ok h
  have hfooter := footer_of_check (by
    rw [List.length_drop, List.length_take, Nat.min_eq_left (Nat.not_lt.mp hdata)]
    omega) hcheck
  refine ⟨stop, hbody, by omega, by omega, by omega, ?_, (Outcome.ok.inj hm).symm⟩
  rw [hfooter, List.drop_take, List.take_take]
  congr 1
  omega

theorem accepted_6699 (h18 : 18 ≤ data.length) (h66 : readU32 data = prefix6699)
    (h : unpackMessage C build data hmacKey none mode = .ok m) :
    ∃ key stop cipher decrypted, hmacKey = some key ∧ 46 ≤ stop ∧
      (lengthField data 18).toNat + 18 = stop ∧ stop + 4 < 2 ^ 32 ∧ stop + 4 ≤ data.length ∧
      TuyaCipher.new key = .ok cipher ∧
      (let body := (data.take stop).drop 18
      cipher.decrypt C (body.drop 12) false (some (body.take 12)) (some ((data.take 18).drop 4))
        = .ok decrypted ∧
      m = ⟨readU32 (data.drop 6), readU32 (data.drop 10),
        (splitRetcode (sniff6699 decrypted mode) decrypted).1,
        (splitRetcode (sniff6699 decrypted mode) decrypted).2, prefix6699,
        some (body.take 12)⟩) := by
  rw [unpackMessage_bind, parseHeader_6699_eq build h18 h66] at h
  rcases addU32_cases (ε := TuyaError) build (lengthField data 18) 18 with hadd | hadd
  swap
  · rw [hadd] at h
    cases h
  rcases addU32_cases (ε := TuyaError) build (lengthField data 18 + 18) 4 with hadd' | hadd'
  swap
  · rw [hadd, Outcome.ok_bind, hadd'] at h
    cases h
  rw [hadd, Outcome.ok_bind, hadd', Outcome.ok_bind, Outcome.ok_bind] at h
  set header : TuyaHeader := ⟨prefix6699, readU32 (data.drop 6), readU32 (data.drop 10),
    lengthField data 18, lengthField data 18 + 18 + 4⟩ with hheader
  have htotal : header.totalLength.toNat = ((lengthField data 18).toNat + 22) % 2 ^ 32 := by
    have h18' : (18 : UInt32).toNat = 18 := rfl
    have h4' : (4 : UInt32).toNat = 4 := rfl
    change (lengthField data 18 + 18 + 4).toNat = _
    rw [UInt32.toNat_add, UInt32.toNat_add, h18', h4']
    omega
  have hlt := (lengthField data 18).toNat_lt
  by_cases hdata : data.length < header.totalLength.toNat
  · have hshort : unpackMessage C build data hmacKey (some header) mode
        = .err (.decodeError "Data shorter than expected") := if_pos hdata
    rw [hshort] at h
    cases h
  have hframe : unpackMessage C build data hmacKey (some header) mode
      = unpack6699 C build data hmacKey header mode :=
    ((if_neg hdata).trans (if_neg prefix_ne)).trans (if_pos rfl)
  rw [hframe] at h
  obtain ⟨key, rfl⟩ : ∃ key, hmacKey = some key := by
    cases hmacKey with
    | none => cases h
    | some key => exact ⟨key, rfl⟩
  by_cases hroom : 22 ≤ header.totalLength.toNat
  swap
  · rw [unpack6699_undersized C build (Nat.not_le.mp hroom)] at h
    cases h
  obtain ⟨stop, hstop⟩ : ∃ stop, header.totalLength.toNat = stop + 4 :=
    ⟨_, (Nat.sub_add_cancel (by omega)).symm⟩
  rw [unpack6699_eq C build hstop (by omega) (Nat.not_lt.mp hdata)] at h
  dsimp only at h
  split at h
  · cases h
  next hlong =>
    obtain ⟨cipher, hcipher, h⟩ := Outcome.bind_eq_ok h
    obtain ⟨decrypted, hdecrypt, hm⟩ := Outcome.bind_eq_ok h
    have hbody : ((data.take stop).drop 18).length = stop - 18 := by
      rw [List.length_drop, List.length_take, Nat.min_eq_left (by omega)]
    exact ⟨key, stop, cipher, decrypted, rfl, by omega, by omega, by omega, by omega, hcipher,
      hdecrypt, (Outcome.ok.inj hm).symm⟩

def Agrees (total : Nat) (data : Bytes) (packed : Result Bytes) : Prop :=
  ∃ frame, packed = .ok frame ∧ frame.length = total ∧
    frame.take (total - 4) = data.take (total - 4)

theorem reencode_55aa (h16 : 16 ≤ data.length) (h55 : readU32 data = prefix55aa)
    (h : unpackMessage C build data hmacKey none (some true) = .ok m) :
    (lengthField data 16).toNat + 16 < 2 ^ 32 ∧ m.msgPrefix = prefix55aa ∧
      Agrees ((lengthField data 16).toNat + 16) data (pack55aa C build m hmacKey) := by
  obtain ⟨stop, hbody, hlen, hfit, hdata, hfooter, rfl⟩ := accepted_55aa h16 h55 h
  have hend := endLen_le hmacKey
  set payload := (data.take stop).drop 16 with hpayload
  have hplen : payload.length = stop - 16 := by
    rw [hpayload, List.length_drop, List.length_take, Nat.min_eq_left (by omega)]
  -- The length that is written is the length that was read.
  have hfield : UInt32.ofNat (payload.length + endLen hmacKey) = lengthField data 16 := by
    rw [hplen, show stop - 16 + endLen hmacKey = (lengthField data 16).toNat by omega]
    exact UInt32.ofNat_toNat
  have hhead : header55aa (readU32 (data.drop 4)) (readU32 (data.drop 8)) (lengthField data 16)
      ++ payload = data.take stop := by
    rw [header55aa_read h16 h55, hpayload, List.drop_take]
    have hsplit : stop = 16 + (stop - 16) := by omega
    conv_rhs => rw [hsplit, List.take_add]
  have hfits : payload.length + 16 + endLen hmacKey < 2 ^ 32 := by omega
  have hpack := pack55aa_eq C build (readU32 (data.drop 4)) (readU32 (data.drop 8)) none hfits
  rw [hfield] at hpack
  dsimp only at hpack
  rw [hhead, hfooter] at hpack
  refine ⟨by omega, rfl, _, hpack, ?_, ?_⟩
  · simp only [List.length_append, List.length_take, List.length_drop, length_writeU32]
    omega
  · have htake : data.take (stop + (endLen hmacKey - 4))
        = data.take stop ++ (data.drop stop).take (endLen hmacKey - 4) := List.take_add
    rw [show (lengthField data 16).toNat + 16 - 4 = stop + (endLen hmacKey - 4) by omega, htake,
      ← List.append_assoc]
    apply List.take_left'
    simp only [List.length_append, List.length_take, List.length_drop]
    omega

theorem reencode_6699 (hC : C.GcmExact) (randomIv : U8Array 12)
    (h18 : 18 ≤ data.length) (h66 : readU32 data = prefix6699)
    (hreserved : (data.drop 4).take 2 = [0, 0])
    (h : unpackMessage C build data hmacKey none mode = .ok m) :
    (lengthField data 18).toNat + 22 < 2 ^ 32 ∧ m.msgPrefix = prefix6699 ∧
      Agrees ((lengthField data 18).toNat + 22) data (pack6699 C randomIv m hmacKey) := by
  obtain ⟨key, stop, cipher, decrypted, rfl, hbody, hlen, hfit, hdata, hcipher, hdecrypt, rfl⟩ :=
    accepted_6699 h18 h66 h
  set body := (data.take stop).drop 18 with hbodyDef
  have hblen : body.length = stop - 18 := by
    rw [hbodyDef, List.length_drop, List.length_take, Nat.min_eq_left (by omega)]
  have hiv : (body.take 12).length = 12 := by
    rw [List.length_take]
    omega
  have hslice : (slice (body.take 12) 0 12 : Result Bytes) = .ok (body.take 12) := by
    rw [slice_of_le (by omega) (by omega) (by decide),
      List.take_of_length_le (Nat.le_of_eq hiv), List.drop_zero]
  have hhead := header6699_read h18 h66 hreserved
  set aad := (data.take 18).drop 4 with haad
  -- The ciphertext is the encryption of what it was decrypted to.
  have hopen : C.gcmDecrypt cipher.key ⟨body.take 12, hiv⟩ aad (body.drop 12) = some decrypted := by
    simp only [TuyaCipher.decrypt, Bool.false_eq_true, if_false, Outcome.ok_bind, hslice, hiv,
      dif_pos, Option.getD_some] at hdecrypt
    cases hd : C.gcmDecrypt cipher.key ⟨body.take 12, hiv⟩ aad (body.drop 12) with
    | none =>
      rw [hd] at hdecrypt
      cases hdecrypt
    | some p =>
      rw [hd] at hdecrypt
      cases hdecrypt
      rfl
  have hseal := (hC.inverse _ _ _ _ _).mp hopen
  have hclen := hC.length _ _ _ _ _ hseal
  rw [List.length_drop] at hclen
  have hfield : UInt32.ofNat (12 + decrypted.length + 16) = lengthField data 18 := by
    rw [show 12 + decrypted.length + 16 = (lengthField data 18).toNat by omega]
    exact UInt32.ofNat_toNat
  have hpack : pack6699 C randomIv ⟨readU32 (data.drop 6), readU32 (data.drop 10),
      (splitRetcode (sniff6699 decrypted mode) decrypted).1,
      (splitRetcode (sniff6699 decrypted mode) decrypted).2, prefix6699, some (body.take 12)⟩
      (some key) = .ok (data.take 18 ++ (body.take 12 ++ body.drop 12) ++ writeU32 suffix6699) := by
    have hwritten : header6699 ⟨readU32 (data.drop 6), readU32 (data.drop 10),
        (splitRetcode (sniff6699 decrypted mode) decrypted).1,
        (splitRetcode (sniff6699 decrypted mode) decrypted).2, prefix6699,
        some (body.take 12)⟩ (12 + decrypted.length + 16) = data.take 18 := by
      rw [← hhead, header6699, hfield, header6699Bytes]
      simp only [List.append_assoc]
    have hslice' : (sliceFrom (data.take 18) 4 : Result Bytes) = .ok aad :=
      sliceFrom_of_le (by rw [List.length_take]; omega)
    simp only [pack6699, Outcome.okOr_some, Outcome.ok_bind, splitRetcode_join, hwritten, hcipher,
      hslice', Option.getD_some, TuyaCipher.encrypt, hslice, hiv, dif_pos, hseal,
      Bool.false_eq_true, if_false]
  rw [List.take_append_drop] at hpack
  refine ⟨by omega, rfl, _, hpack, ?_, ?_⟩
  · simp only [List.length_append, List.length_take, length_writeU32]
    omega
  · have htake : data.take (18 + (stop - 18)) = data.take 18 ++ (data.drop 18).take (stop - 18) :=
      List.take_add
    have hbodyEq : body = (data.drop 18).take (stop - 18) := by rw [hbodyDef, List.drop_take]
    rw [show (lengthField data 18).toNat + 22 - 4 = 18 + (stop - 18) by omega, htake, ← hbodyEq]
    apply List.take_left'
    rw [List.length_append, List.length_take, hblen]
    omega

/-- For every byte string that decodes, with no return code taken from a 55AA frame and with
the two bytes without meaning of a 6699 frame zero: packing the message again succeeds and
gives the frame back, up to the suffix. -/
theorem pack_unpack_message (hC : C.GcmExact) (randomIv : U8Array 12)
    (h : unpackMessage C build data hmacKey none mode = .ok m)
    (hmode : readU32 data = prefix55aa → mode = some true)
    (hreserved : readU32 data = prefix6699 → (data.drop 4).take 2 = [0, 0]) :
    ∃ header, parseHeader build data = .ok header ∧
      Agrees header.totalLength.toNat data (packMessage C build randomIv m hmacKey) := by
  by_cases h16 : 16 ≤ data.length
  swap
  · rw [unpackMessage_bind, parseHeader_short build (Nat.not_le.mp h16)] at h
    cases h
  by_cases h55 : readU32 data = prefix55aa
  · rw [hmode h55] at h
    obtain ⟨hfit, hword, hagrees⟩ := reencode_55aa h16 h55 h
    refine ⟨_, parseHeader_55aa build h16 h55 hfit, ?_⟩
    rw [packMessage, if_pos hword, toNat_add_16 hfit]
    exact hagrees
  by_cases h66 : readU32 data = prefix6699
  swap
  · rw [unpackMessage_bind, parseHeader_other build h16 h55 h66] at h
    cases h
  by_cases h18 : 18 ≤ data.length
  swap
  · rw [unpackMessage_bind, parseHeader_6699_short build h16 (Nat.not_le.mp h18) h66] at h
    cases h
  obtain ⟨hfit, hword, hagrees⟩ := reencode_6699 hC randomIv h18 h66 (hreserved h66) h
  refine ⟨_, parseHeader_6699 build h18 h66 hfit, ?_⟩
  rw [packMessage, if_neg (by rw [hword]; exact prefix_ne), if_pos hword, toNat_add_22 hfit]
  exact hagrees

def sampleFrame : Bytes :=
  header6699Bytes 1 13 35 ++ (KnownAnswers.sampleIv.val ++
    ((KnownAnswers.number 23 0x2d028fe646033281421b2dda6d13333968742504da2b29).val ++
      writeU32 suffix6699))

theorem sample_frames_reencoded :
    (∃ m header, unpackMessage KnownAnswers.strictCrates .release heartbeatAck none none (some true)
        = .ok m ∧ parseHeader .release heartbeatAck = .ok header ∧
      Agrees header.totalLength.toNat heartbeatAck
        (packMessage KnownAnswers.strictCrates .release KnownAnswers.sampleIv m none)) ∧
    ∃ m header, unpackMessage KnownAnswers.strictCrates .release sampleFrame
        (some KnownAnswers.sampleKey.val) none none = .ok m ∧
      parseHeader .release sampleFrame = .ok header ∧
      Agrees header.totalLength.toNat sampleFrame
        (packMessage KnownAnswers.strictCrates .release KnownAnswers.sampleIv m
          (some KnownAnswers.sampleKey.val)) := by
  constructor
  · have hack : unpackMessage KnownAnswers.strictCrates .release heartbeatAck none none (some true)
        = .ok ⟨1, 9, none, [0, 0, 0, 0], prefix55aa, none⟩ := by decide +kernel
    obtain ⟨header, hparse, hagrees⟩ := pack_unpack_message KnownAnswers.gcmExact
      KnownAnswers.sampleIv hack (fun _ => rfl) (fun h => absurd h (by decide))
    exact ⟨_, header, hack, hparse, hagrees⟩
  · have hframe : unpackMessage KnownAnswers.strictCrates .release sampleFrame
        (some KnownAnswers.sampleKey.val) none none
        = .ok ⟨1, 13, none, KnownAnswers.samplePayload, prefix6699,
            some KnownAnswers.sampleIv.val⟩ := by decide +kernel
    obtain ⟨header, hparse, hagrees⟩ := pack_unpack_message KnownAnswers.gcmExact
      KnownAnswers.sampleIv hframe (fun h => absurd h (by decide)) (fun _ => rfl)
    exact ⟨_, header, hframe, hparse, hagrees⟩

end Reencoding

end FrameReencoding
