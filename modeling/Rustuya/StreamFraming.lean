import Rustuya.DeviceDetection
import Rustuya.FrameSafety
import Rustuya.KnownAnswers

/-!
# Framing over whole runs of the reader

Packets separated by garbage are delivered one by one. What is delivered for a packet
depends on the packet alone: an undecodable packet becomes an error message and leaves
the position in the stream and the settings of the device as a good one would.
-/
namespace StreamFraming

open CheckedExecution StatefulExecution ByteCodec Error Crypto Message Protocol Json DeviceState
open DeviceDetection FrameSafety StreamReader

section Window

theorem shiftIn_readU32 (a b c d e : UInt8) (xs ys : Bytes) :
    shiftIn (readU32 (a :: b :: c :: d :: xs)) e = readU32 (b :: c :: d :: e :: ys) := by
  have ha := a.toNat_lt
  have hb := b.toNat_lt
  have hc := c.toNat_lt
  have hd := d.toNat_lt
  have he := e.toNat_lt
  set w := a.toNat * 2 ^ 24 + b.toNat * 2 ^ 16 + c.toNat * 2 ^ 8 + d.toNat with hw
  have hlow : w * 2 ^ 8 % 2 ^ 32 = 2 ^ 8 * (b.toNat * 2 ^ 16 + c.toNat * 2 ^ 8 + d.toNat) := by
    omega
  apply UInt32.toNat_inj.mp
  simp only [shiftIn, readU32, UInt32.toNat_or, UInt32.toNat_shiftLeft, UInt8.toNat_toUInt32,
    UInt32.toNat_ofNat', ← hw]
  rw [Nat.mod_eq_of_lt (show w < 2 ^ 32 by omega), Nat.shiftLeft_eq,
    show (UInt32.toNat 8 % 32) = 8 from rfl, hlow,
    ← Nat.two_pow_add_eq_or_of_lt (show e.toNat < 2 ^ 8 from he)]
  omega

theorem toUInt32_eq_readU32 (b : UInt8) : b.toUInt32 = readU32 [0, 0, 0, b] := by
  have hb := b.toNat_lt
  apply UInt32.toNat_inj.mp
  simp only [readU32, UInt8.toNat_toUInt32, UInt32.toNat_ofNat', UInt8.toNat_zero]
  omega

abbrev IsPrefix (word : UInt32) : Prop := word = prefix55aa ∨ word = prefix6699

/-- Neither prefix starts in the first `n` bytes. -/
def Clean (n : Nat) (bytes : Bytes) : Prop := ∀ k < n, ¬ IsPrefix (readU32 (bytes.drop k))

theorem clean_append {n : Nat} {bytes : Bytes} (h : Clean n bytes) (hlen : n + 4 ≤ bytes.length)
    (rest : Bytes) : Clean n (bytes ++ rest) := by
  intro k hk
  rw [List.drop_append_of_le_length (by omega),
    readU32_append (by rw [List.length_drop]; omega)]
  exact h k hk

theorem scanWindow_finds {r : Reader} {tail : Bytes} (htail : 4 ≤ tail.length)
    (hp : IsPrefix (readU32 tail)) (garbage : Bytes) : ∀ n, garbage.length < n →
    Clean garbage.length (garbage ++ tail) →
    (scanWindow n (readU32 (garbage ++ tail))).run (r.rest ((garbage ++ tail).drop 4))
      = (.ok (some (tail.take 4)), r.rest (tail.drop 4)) := by
  induction garbage with
  | nil =>
    intro n hn _
    obtain ⟨m, rfl⟩ : ∃ m, n = m + 1 := ⟨n - 1, by simp at hn; omega⟩
    rw [List.nil_append, scanWindow, if_pos hp, writeU32_readU32 htail]
    rfl
  | cons a garbage ih =>
    intro n hn hclean
    rw [List.length_cons] at hn hclean
    obtain ⟨m, rfl⟩ : ∃ m, n = m + 1 := ⟨n - 1, by omega⟩
    have hhere : ¬ IsPrefix (readU32 (a :: garbage ++ tail)) := hclean 0 (by omega)
    have hnext : Clean garbage.length (garbage ++ tail) := by
      intro k hk
      exact hclean (k + 1) (by omega)
    have hlen : 4 ≤ (garbage ++ tail).length := by rw [List.length_append]; omega
    rw [scanWindow, if_neg hhere, List.cons_append]
    match hg : garbage ++ tail, hlen with
    | b :: c :: d :: e :: more, _ =>
      rw [hg] at ih
      have hread : readU8.run (r.rest ((a :: b :: c :: d :: e :: more).drop 4))
          = (.ok e, r.rest more) := run_readU8 e more
      rw [Program.run_bind_ok hread, shiftIn_readU32 a b c d e (e :: more) more]
      exact ih m (by omega) (hg ▸ hnext)

theorem run_scanPositions {r : Reader} {firstByte : UInt8} {bytes : Bytes} (n : Nat)
    (hlen : 3 ≤ bytes.length) :
    (scanPositions n firstByte).run (r.rest bytes)
      = (scanWindow n (readU32 (firstByte :: bytes))).run
          (r.rest ((firstByte :: bytes).drop 4)) := by
  match bytes, hlen with
  | b :: c :: d :: more, _ =>
    rw [scanPositions, Program.run_bind_ok (run_readU8 b _), Program.run_bind_ok (run_readU8 c _),
      Program.run_bind_ok (run_readU8 d _), toUInt32_eq_readU32,
      shiftIn_readU32 0 0 0 firstByte b [] [], shiftIn_readU32 0 0 firstByte b c [] [],
      shiftIn_readU32 0 firstByte b c d [] more]
    rfl

theorem scanPositions_finds {r : Reader} {garbage tail : Bytes} {firstByte : UInt8} {n : Nat}
    {bytes : Bytes} (hbytes : firstByte :: bytes = garbage ++ tail) (hn : garbage.length < n)
    (hclean : Clean garbage.length (garbage ++ tail)) (htail : 4 ≤ tail.length)
    (hp : IsPrefix (readU32 tail)) :
    (scanPositions n firstByte).run (r.rest bytes)
      = (.ok (some (tail.take 4)), r.rest (tail.drop 4)) := by
  have hlen : 3 ≤ bytes.length := by
    have h := congrArg List.length hbytes
    rw [List.length_cons, List.length_append] at h
    omega
  rw [run_scanPositions n hlen, hbytes]
  exact scanWindow_finds htail hp garbage n hn hclean

end Window

section Packets

variable (build : Build)

/-- A packet of exactly the length its header announces. -/
structure WellFormed (hmacKey : Option Bytes) (packet : Bytes) : Prop where
  fits : LengthFits packet
  announced : ∃ header, parseHeader build packet = .ok header ∧
    header.totalLength.toNat = packet.length
  room : readU32 packet = prefix55aa → hmacKey.isSome → 36 ≤ packet.length

variable {build} {hmacKey : Option Bytes} {packet : Bytes}

theorem wellFormed_cases (h : WellFormed build hmacKey packet) :
    (16 ≤ packet.length ∧ readU32 packet = prefix55aa ∧
      (lengthField packet 16).toNat + 16 = packet.length ∧ packet.length < 2 ^ 32) ∨
    (18 ≤ packet.length ∧ readU32 packet = prefix6699 ∧
      (lengthField packet 18).toNat + 22 = packet.length ∧ packet.length < 2 ^ 32) := by
  obtain ⟨header, hparse, htotal⟩ := h.announced
  by_cases h16 : 16 ≤ packet.length
  swap
  · rw [parseHeader_short build (by omega)] at hparse
    cases hparse
  by_cases h55 : readU32 packet = prefix55aa
  · have hfit := h.fits.frame55aa h16 h55
    rw [parseHeader_55aa build h16 h55 hfit] at hparse
    cases hparse
    rw [toNat_add_16 hfit] at htotal
    exact Or.inl ⟨h16, h55, htotal, by omega⟩
  by_cases h66 : readU32 packet = prefix6699
  swap
  · rw [parseHeader_other build h16 h55 h66] at hparse
    cases hparse
  by_cases h18 : 18 ≤ packet.length
  · have hfit := h.fits.frame6699 h18 h66
    rw [parseHeader_6699 build h18 h66 hfit] at hparse
    cases hparse
    rw [toNat_add_22 hfit] at htotal
    exact Or.inr ⟨h18, h66, htotal, by omega⟩
  · rw [parseHeader_6699_short build h16 (by omega) h66] at hparse
    cases hparse

theorem wellFormed_isPrefix (h : WellFormed build hmacKey packet) :
    16 ≤ packet.length ∧ IsPrefix (readU32 packet) := by
  rcases wellFormed_cases h with ⟨h16, h55, -, -⟩ | ⟨h18, h66, -, -⟩
  · exact ⟨h16, Or.inl h55⟩
  · exact ⟨by omega, Or.inr h66⟩

theorem readU32_drop_take {i n : Nat} (h : i + 4 ≤ n) (data : Bytes) :
    readU32 ((data.take n).drop i) = readU32 (data.drop i) := by
  rw [List.drop_take, readU32_take (by omega)]

theorem parseHeader_take_16 (h16 : 16 ≤ packet.length) (h55 : readU32 packet = prefix55aa)
    (hfit : (lengthField packet 16).toNat + 16 < 2 ^ 32) :
    parseHeader build (packet.take 16) = parseHeader build packet := by
  have hlen : lengthField (packet.take 16) 16 = lengthField packet 16 :=
    readU32_drop_take (by omega) packet
  have hp : readU32 (packet.take 16) = prefix55aa := by rw [readU32_take (by omega), h55]
  rw [parseHeader_55aa build h16 h55 hfit,
    parseHeader_55aa build (by rw [List.length_take]; omega) hp (by rw [hlen]; exact hfit), hlen,
    readU32_drop_take (by omega), readU32_drop_take (by omega)]

theorem parseHeader_take_18 (h18 : 18 ≤ packet.length) (h66 : readU32 packet = prefix6699)
    (hfit : (lengthField packet 18).toNat + 22 < 2 ^ 32) :
    parseHeader build (packet.take 18) = parseHeader build packet := by
  have hlen : lengthField (packet.take 18) 18 = lengthField packet 18 :=
    readU32_drop_take (by omega) packet
  have hp : readU32 (packet.take 18) = prefix6699 := by rw [readU32_take (by omega), h66]
  rw [parseHeader_6699 build h18 h66 hfit,
    parseHeader_6699 build (by rw [List.length_take]; omega) hp (by rw [hlen]; exact hfit), hlen,
    readU32_drop_take (by omega), readU32_drop_take (by omega)]

theorem run_completeHeader {r : Reader} (h : WellFormed build hmacKey packet) (rest : Bytes) :
    ∃ n ≤ packet.length, parseHeader build (packet.take n) = parseHeader build packet ∧
      (completeHeader (packet.take 16)).run (r.rest (packet.drop 16 ++ rest))
        = (.ok (packet.take n), r.rest (packet.drop n ++ rest)) := by
  have htake : readU32 (packet.take 16) = readU32 packet := readU32_take (by omega)
  rcases wellFormed_cases h with ⟨h16, h55, hlen, hlt⟩ | ⟨h18, h66, hlen, hlt⟩
  · refine ⟨16, h16, parseHeader_take_16 h16 h55 (by omega), ?_⟩
    rw [completeHeader, htake, if_neg (by rw [h55]; exact prefix_ne.symm)]
    rfl
  · have hextra : ((packet.drop 16).take 2).length = 2 := by
      rw [List.length_take, List.length_drop]; omega
    have hhead : packet.take 18 = packet.take 16 ++ (packet.drop 16).take 2 :=
      List.take_add (i := 16) (j := 2)
    have hsplit : packet.drop 16 ++ rest = (packet.drop 16).take 2 ++ (packet.drop 18 ++ rest) := by
      have hdrop : (packet.drop 16).drop 2 = packet.drop 18 := List.drop_drop
      rw [← List.append_assoc, ← hdrop, List.take_append_drop]
    refine ⟨18, h18, parseHeader_take_18 h18 h66 (by omega), ?_⟩
    rw [completeHeader, htake, if_pos h66, hsplit, Program.run_bind_ok (run_readExact hextra _),
      hhead]
    rfl

theorem run_readFullPacket {r : Reader} (h : WellFormed build hmacKey packet) (rest : Bytes) :
    ∃ header, parseHeader build packet = .ok header ∧
      (readFullPacket build (packet.take 16)).run (r.rest (packet.drop 16 ++ rest))
        = (.ok (packet, header), r.rest rest) := by
  obtain ⟨header, hparse, htotal⟩ := h.announced
  obtain ⟨n, hn, hsame, hrun⟩ := run_completeHeader (r := r) h rest
  have hhead : (packet.take n).length = n := by rw [List.length_take]; omega
  have hbody : (packet.drop n).length = packet.length - n := List.length_drop
  refine ⟨header, hparse, ?_⟩
  rw [readFullPacket, Program.run_bind_ok hrun, hsame, hparse,
    Program.run_bind_ok (Program.run_lift _ _)]
  dsimp only
  rw [hhead, htotal, if_neg (by omega), Program.run_bind_ok (run_readExact hbody rest),
    List.take_append_drop]
  rfl

end Packets

section Decoding

variable (C : Crates) (build : Build) (device : Device)

def decoded (s : State) (packet : Bytes) : Result TuyaMessage := do
  let header ← parseHeader build packet
  let cipher ← TuyaCipher.new (s.activeKey device)
  let msg ← unpackMessage C build packet (s.protocol.getHmacKey cipher.key.val) (some header)
    (some false)
  if msg.payload.isEmpty then .ok msg
  else do
    let payload ← s.protocol.decryptPayload C msg.payload cipher
    .ok { msg with payload }

variable {s t : State}

theorem decoded_congr (h : SameSettings s t) (packet : Bytes) :
    decoded C build device t packet = decoded C build device s packet := by
  rw [decoded, decoded, h.activeKey, h.protocol]

/-- With a known device type the CRC fallback is closed. -/
theorem run_unpackAndCheckDev22 (hdev : s.devType ≠ .auto) (packet : Bytes)
    (header : TuyaHeader) :
    (unpackAndCheckDev22 C build device packet header).run s =
      ((TuyaCipher.new (s.activeKey device) >>= fun cipher =>
        unpackMessage C build packet (s.protocol.getHmacKey cipher.key.val) (some header)
          (some false)), s.cached (TuyaCipher.new (s.activeKey device))) := by
  rw [run_unpackVerdict, checked_known device s fun _ _ hadopt => hdev (unpack_adopts hadopt).1]
  simp only [unpack_known hdev, State.protocol]

theorem run_decryptAndCleanPayload (hdev : s.devType ≠ .auto) {cipher : TuyaCipher}
    (hnew : TuyaCipher.new (s.activeKey device) = .ok cipher) (payload : Bytes) :
    (decryptAndCleanPayload C device payload).run s
      = (s.protocol.decryptPayload C payload cipher, s.cached (.ok cipher)) := by
  rw [run_decryptVerdict, checked_known device s fun _ _ hadopt => hdev (decrypt_adopts hadopt),
    hnew, Outcome.ok_bind, decrypt_known hdev, State.protocol]

theorem run_decodePacket (hdev : s.devType ≠ .auto) {packet : Bytes} {header : TuyaHeader}
    (hparse : parseHeader build packet = .ok header) :
    (decodePacket C build device packet header).run s
      = (decoded C build device s packet,
        s.cached (TuyaCipher.new (s.activeKey device))) := by
  have hunpack := run_unpackAndCheckDev22 C build device hdev packet header
  rw [decodePacket, decoded, hparse, Outcome.ok_bind]
  cases hnew : TuyaCipher.new (s.activeKey device) with
  | panic => exact ((new_returns _).returns hnew).elim
  | err e =>
    rw [hnew] at hunpack
    rw [Program.run_bind_err hunpack, Outcome.err_bind]
  | ok cipher =>
    rw [hnew, Outcome.ok_bind] at hunpack
    rw [Outcome.ok_bind]
    cases hmsg : unpackMessage C build packet (s.protocol.getHmacKey cipher.key.val)
        (some header) (some false) with
    | panic =>
      rw [hmsg] at hunpack
      rw [Program.run_bind_panic hunpack, Outcome.panic_bind]
    | err e =>
      rw [hmsg] at hunpack
      rw [Program.run_bind_err hunpack, Outcome.err_bind]
    | ok msg =>
      rw [hmsg] at hunpack
      rw [Program.run_bind_ok hunpack, Outcome.ok_bind]
      by_cases hempty : msg.payload.isEmpty = true
      · rw [if_pos hempty, if_pos hempty]
        rfl
      · rw [if_neg hempty, if_neg hempty]
        have hsame := sameSettings_cached s (.ok cipher)
        have hdecrypt := run_decryptAndCleanPayload C device
          (by rw [hsame.devType]; exact hdev) (by rw [hsame.activeKey]; exact hnew) msg.payload
        rw [hsame.protocol] at hdecrypt
        cases hdec : s.protocol.decryptPayload C msg.payload cipher with
        | panic =>
          rw [hdec] at hdecrypt
          exact Program.run_bind_panic hdecrypt
        | err e =>
          rw [hdec] at hdecrypt
          exact Program.run_bind_err hdecrypt
        | ok payload =>
          rw [hdec] at hdecrypt
          exact Program.run_bind_ok hdecrypt

end Decoding

section DecodingErrors

variable {C : Crates} {build : Build} {device : Device} {s : State}

theorem unpad_returns (plaintext : Bytes) : (unpad plaintext).ReturnsWith NotIo := by
  unfold unpad
  split
  · trivial
  · rename_i hne
    have hpos : plaintext.length - 1 < plaintext.length := by
      have h0 : plaintext.length ≠ 0 := fun h => hne (by simpa using h)
      omega
    rw [index_of_lt hpos, Outcome.ok_bind]
    dsimp only
    split
    · exact rfl
    · split
      · exact rfl
      · trivial

theorem decrypt_ecb_returns (cipher : TuyaCipher) (data : Bytes) (header : Option Bytes) :
    (cipher.decrypt C data false none header).ReturnsWith NotIo := by
  simp only [TuyaCipher.decrypt, Bool.false_eq_true, if_false, Outcome.ok_bind]
  split
  · exact rfl
  · exact unpad_returns _

theorem decryptPayloadOuter_returns (version : Version) (payload : Bytes) (cipher : TuyaCipher) :
    (decryptPayloadOuter C version payload cipher).ReturnsWith NotIo := by
  unfold decryptPayloadOuter
  dsimp only
  split
  · trivial
  · have h := decrypt_ecb_returns (C := C) cipher (stripHeader version payload) none
    split
    · trivial
    · trivial
    next hp => exact (h.returns hp).elim

theorem decryptPayload_returns (protocol : TuyaProtocol) (payload : Bytes) (cipher : TuyaCipher) :
    (protocol.decryptPayload C payload cipher).ReturnsWith NotIo := by
  induction protocol with
  | v31 =>
    unfold TuyaProtocol.decryptPayload decryptPayloadV31
    split
    · rename_i h
      rw [sliceFrom_of_le (by omega), Outcome.ok_bind]
      apply Outcome.ReturnsWith.bind (Outcome.returnsWith_okOr (P := NotIo) rfl _)
      intro encrypted _
      exact decrypt_ecb_returns cipher encrypted none
    · trivial
  | v32 => exact decryptPayloadOuter_returns .v32 payload cipher
  | v33 => exact decryptPayloadOuter_returns .v33 payload cipher
  | v34 =>
    have h := decrypt_ecb_returns (C := C) cipher payload none
    unfold TuyaProtocol.decryptPayload decryptPayloadV34
    split
    · trivial
    · trivial
    next hp => exact (h.returns hp).elim
  | v35 => trivial
  | dev22 base ih => exact ih

theorem unpackMessage_returns {hmacKey : Option Bytes} {packet : Bytes} {header : TuyaHeader}
    (h : WellFormed build hmacKey packet) (hparse : parseHeader build packet = .ok header)
    (mode : Option Bool) :
    (unpackMessage C build packet hmacKey (some header) mode).ReturnsWith NotIo := by
  have hnone : unpackMessage C build packet hmacKey (some header) mode
      = unpackMessage C build packet hmacKey none mode := by
    rw [unpackMessage, unpackMessage, hparse]
  have hend := endLen_le hmacKey
  rw [hnone]
  rcases wellFormed_cases h with ⟨h16, h55, hlen, hlt⟩ | ⟨h18, h66, hlen, hlt⟩
  · have ht := toNat_add_16 (show (lengthField packet 16).toNat + 16 < 2 ^ 32 by omega)
    have hroom : endLen hmacKey ≤ packet.length := by
      by_cases hk : hmacKey.isSome = true
      · have := h.room h55 hk
        omega
      · have h8 : endLen hmacKey = 8 := if_neg hk
        omega
    rw [unpackMessage_55aa C build h16 h55 (by omega), if_neg (by omega)]
    apply unpack55aa_returns
    · rw [ht, hlen]; exact hroom
    · rw [ht, hlen]
  · have ht := toNat_add_22 (show (lengthField packet 18).toNat + 22 < 2 ^ 32 by omega)
    rw [unpackMessage_6699 C build h18 h66 (by omega), if_neg (by omega)]
    apply unpack6699_returns
    · rw [ht]; omega
    · rw [ht, hlen]

/-- Whatever the body of a packet, decoding it ends, and not with a connection error. -/
theorem decoded_returns {packet : Bytes}
    (h : WellFormed build (s.protocol.getHmacKey (s.activeKey device)) packet) :
    (decoded C build device s packet).ReturnsWith NotIo := by
  obtain ⟨header, hparse, -⟩ := h.announced
  rw [decoded, hparse, Outcome.ok_bind]
  apply Outcome.ReturnsWith.bind (new_returns _)
  intro cipher hcipher
  have hkey : cipher.key.val = s.activeKey device := by
    unfold TuyaCipher.new at hcipher
    split at hcipher <;> cases hcipher
    rfl
  rw [hkey]
  apply Outcome.ReturnsWith.bind (unpackMessage_returns h hparse _)
  intro msg _
  split
  · trivial
  · apply Outcome.ReturnsWith.bind (decryptPayload_returns _ _ _)
    intro payload _
    trivial

end DecodingErrors

section Delivery

variable (C : Crates) (S : Codec) (build : Build) (device : Device)

def parsed (s : State) (packet : Bytes) : TuyaMessage :=
  match decoded C build device s packet with
  | .ok msg => msg
  | .err e => errorHelper S s errPayload (some (.string e.display))
  | .panic => TuyaMessage.default

def announced (s : State) (msg : TuyaMessage) : TuyaMessage :=
  if msg.payload.isEmpty then msg
  else if (S.fromSlice msg.payload).isNone then errorHelper S s errJson (some (nonJsonPayload msg))
  else msg

/-- What is delivered for a packet: its message, or an error message in its place. -/
def delivery (s : State) (packet : Bytes) : TuyaMessage :=
  match decoded C build device s packet with
  | .ok msg => announced S s msg
  | .err e => errorHelper S s errPayload (some (.string e.display))
  | .panic => TuyaMessage.default

variable {s t : State}

theorem delivery_congr (h : SameSettings s t) (packet : Bytes) :
    delivery C S build device t packet = delivery C S build device s packet := by
  simp only [delivery, announced, decoded_congr C build device h, h.errorHelper]

/-- An error message is JSON, so it is delivered unchanged. -/
theorem announced_parsed (hS : S.Accepts) {packet : Bytes}
    (hret : (decoded C build device s packet).Returns) :
    announced S s (parsed C S build device s packet) = delivery C S build device s packet := by
  unfold parsed delivery
  cases hdec : decoded C build device s packet with
  | panic => exact (hret hdec).elim
  | ok msg => rfl
  | err e =>
    have hdepth := depth_errorResponse errPayload (some (.string e.display))
    have hjson := hS _ (Nat.lt_of_le_of_lt hdepth (show 0 + 1 < 128 by decide))
    have hnone : (S.fromSlice (errorHelper S s errPayload
        (some (.string e.display))).payload).isNone = false := by
      rw [← Option.not_isSome]
      simpa [errorHelper] using hjson
    unfold announced
    simp only [hnone, Bool.false_eq_true, if_false, ite_self]

variable {C S build device} {r : Reader} {packet : Bytes}

theorem run_parseAndReadBody (hdev : r.device.devType ≠ .auto)
    (h : WellFormed build (r.device.protocol.getHmacKey (r.device.activeKey device)) packet)
    (rest : Bytes) :
    (parseAndReadBody C build device (packet.take 16)).run (r.rest (packet.drop 16 ++ rest))
      = (decoded C build device r.device packet,
        (r.rest rest).withDevice
          (r.device.cached (TuyaCipher.new (r.device.activeKey device)))) := by
  obtain ⟨header, hparse, hread⟩ := run_readFullPacket (r := r) h rest
  have hdecode := run_decodePacket C build device hdev hparse
  rw [parseAndReadBody, Program.run_bind_ok hread]
  dsimp only
  rw [onDevice, Program.run_zoom, rest_device, hdecode]

theorem run_scanForPrefix {garbage rest bytes : Bytes} {firstByte : UInt8}
    (h16 : 16 ≤ packet.length) (hword : IsPrefix (readU32 packet))
    (hbytes : firstByte :: bytes = garbage ++ (packet ++ rest)) (hshort : garbage.length ≤ 1023)
    (hclean : Clean garbage.length (garbage ++ packet)) :
    (scanForPrefix firstByte).run (r.rest bytes)
      = (.ok (some (packet.take 4)), r.rest (packet.drop 4 ++ rest)) := by
  have hclean' : Clean garbage.length (garbage ++ (packet ++ rest)) := by
    rw [← List.append_assoc]
    exact clean_append hclean (by rw [List.length_append]; omega) rest
  have hword' : IsPrefix (readU32 (packet ++ rest)) := by
    rw [readU32_append (by omega)]
    exact hword
  have hfind := scanPositions_finds (r := r) (n := 1024) hbytes (by omega) hclean'
    (by rw [List.length_append]; omega) hword'
  rw [List.take_append_of_le_length (by omega), List.drop_append_of_le_length (by omega)] at hfind
  rw [scanForPrefix, hfind]

theorem run_readAndParseFromStream (hdev : r.device.devType ≠ .auto)
    (h : WellFormed build (r.device.protocol.getHmacKey (r.device.activeKey device)) packet)
    {garbage rest bytes : Bytes} {firstByte : UInt8}
    (hbytes : firstByte :: bytes = garbage ++ (packet ++ rest)) (hshort : garbage.length ≤ 1023)
    (hclean : Clean garbage.length (garbage ++ packet)) :
    (readAndParseFromStream C S build device firstByte).run (r.rest bytes)
      = (.ok (some (parsed C S build device r.device packet)),
        (r.rest rest).withDevice
          (r.device.cached (TuyaCipher.new (r.device.activeKey device)))) := by
  obtain ⟨h16, hword⟩ := wellFormed_isPrefix h
  have hscan := run_scanForPrefix (r := r) h16 hword hbytes hshort hclean
  have h12 : ((packet.drop 4).take 12).length = 12 := by
    rw [List.length_take, List.length_drop]; omega
  have hsplit : packet.drop 4 ++ rest = (packet.drop 4).take 12 ++ (packet.drop 16 ++ rest) := by
    have hdrop : (packet.drop 4).drop 12 = packet.drop 16 := List.drop_drop
    rw [← List.append_assoc, ← hdrop, List.take_append_drop]
  have hhead : packet.take 4 ++ (packet.drop 4).take 12 = packet.take 16 :=
    (List.take_add (i := 4) (j := 12)).symm
  have hbody := run_parseAndReadBody (C := C) hdev h rest
  have hsame := sameSettings_cached r.device (TuyaCipher.new (r.device.activeKey device))
  rw [readAndParseFromStream, Program.run_bind_ok hscan]
  dsimp only
  rw [hsplit, Program.run_bind_ok (run_readExact h12 _),
    Program.run_bind_ok (Program.run_read _ _), hhead, parsed]
  cases hdec : decoded C build device r.device packet with
  | panic => exact ((decoded_returns h).returns hdec).elim
  | ok msg =>
    rw [hdec] at hbody
    apply Program.run_orElse_ok
    rw [Program.run_bind_ok hbody, Program.run_bind_ok (Program.run_read _ _)]
    rw [if_neg (fun hc => hc.1 (hsame.devType.symm.trans hc.2))]
    rfl
  | err e =>
    rw [hdec] at hbody
    have hnotIo : e.isIo = false := by
      have hret := decoded_returns (C := C) h
      rw [hdec] at hret
      exact hret
    rw [Program.run_orElse_err (Program.run_bind_err hbody), hnotIo,
      if_neg Bool.false_ne_true, Program.run_bind_ok (Program.run_read _ _)]
    dsimp only [id, withDevice_device]
    rw [hsame.errorHelper]
    rfl

def consumed (C : Crates) (S : Codec) (build : Build) (device : Device) (r : Reader)
    (packet rest : Bytes) : Reader where
  device := (r.device.cached (TuyaCipher.new (r.device.activeKey device))).counted
  stream := (r.rest rest).stream
  broadcast := r.broadcast ++ [delivery C S build device r.device packet]

theorem successCount_consumed_le (C : Crates) (S : Codec) (build : Build) (device : Device)
    (r : Reader) (packet rest : Bytes) :
    (consumed C S build device r packet rest).device.successCount.toNat
      ≤ r.device.successCount.toNat + 1 := by
  have h := successCount_counted_le (r.device.cached (TuyaCipher.new (r.device.activeKey device)))
  rw [successCount_cached] at h
  exact h

theorem run_processSocketData (hS : S.Accepts) (hdev : r.device.devType ≠ .auto)
    (h : WellFormed build (r.device.protocol.getHmacKey (r.device.activeKey device)) packet)
    {garbage rest bytes : Bytes} {firstByte : UInt8}
    (hbytes : firstByte :: bytes = garbage ++ (packet ++ rest)) (hshort : garbage.length ≤ 1023)
    (hclean : Clean garbage.length (garbage ++ packet))
    (hcount : build.overflowChecks = true → r.device.successCount.toNat + 1 < 2 ^ 32) :
    (processSocketData C S build device firstByte).run (r.rest bytes)
      = (.ok (), consumed C S build device r packet rest) := by
  have hread := run_readAndParseFromStream (C := C) (S := S) hdev h hbytes hshort hclean
  set cached := r.device.cached (TuyaCipher.new (r.device.activeKey device)) with hcached
  have hsame : SameSettings r.device cached.counted :=
    (sameSettings_cached _ _).trans (sameSettings_counted _)
  have hcount' : build.overflowChecks = true → cached.successCount.toNat + 1 < 2 ^ 32 := by
    rw [hcached, successCount_cached]
    exact hcount
  have hreset : (onDevice (resetFailureCount build)).run ((r.rest rest).withDevice cached)
      = (.ok (), (r.rest rest).withDevice cached.counted) := by
    rw [onDevice, Program.run_zoom, withDevice_device, run_resetFailureCount hcount']
    rfl
  rw [processSocketData, Program.run_bind_ok hread]
  dsimp only
  rw [Program.run_bind_ok hreset, consumed,
    ← announced_parsed C S build device hS (decoded_returns h).returns]
  unfold announced
  split
  · rfl
  · split
    · rw [broadcastError, Program.run_bind_ok (Program.run_read _ _)]
      dsimp only [id, withDevice_device]
      rw [hsame.errorHelper]
      rfl
    · rfl

end Delivery

section Runs

variable (build : Build) (device : Device) (s : State)

structure Segment where
  garbage : Bytes
  packet : Bytes
  short : garbage.length ≤ 1023
  wellFormed : WellFormed build (s.protocol.getHmacKey (s.activeKey device)) packet
  clean : Clean garbage.length (garbage ++ packet)

variable {build device s}

def Segment.bytes (seg : Segment build device s) : Bytes := seg.garbage ++ seg.packet

theorem Segment.length_pos (seg : Segment build device s) : 16 ≤ seg.bytes.length := by
  have h := (wellFormed_isPrefix seg.wellFormed).1
  rw [Segment.bytes, List.length_append]
  omega

variable (C : Crates) (S : Codec)

/-- By induction on the packets: each round of the loop consumes one of them, delivers its
message and keeps the settings under which the next one is decoded. -/
theorem readerLoop_delivers (hS : S.Accepts) (hdev : s.devType ≠ .auto)
    (segments : List (Segment build device s)) : ∀ (fuel : Nat) (received : Int32) (r : Reader),
    SameSettings s r.device → r.stream.bytes = segments.flatMap Segment.bytes →
    segments.length < fuel →
    (build.overflowChecks = true → 0 ≤ received.toInt ∧
      received.toInt + segments.length < 2 ^ 31 ∧
      r.device.successCount.toNat + segments.length < 2 ^ 32) →
    ∃ e r', readerLoop C S build device fuel received r = (some (.reported e), r') ∧
      r'.broadcast = r.broadcast ++
        segments.map (fun seg => delivery C S build device s seg.packet) := by
  induction segments with
  | nil =>
    intro fuel received r _ hbytes hfuel _
    obtain ⟨n, rfl⟩ : ∃ n, fuel = n + 1 := ⟨fuel - 1, by simp at hfuel; omega⟩
    refine ⟨r.stream.ending.closing received, r, ?_, by simp⟩
    rw [readerLoop, hbytes]
    rfl
  | cons seg segments ih =>
    intro fuel received r hsame hbytes hfuel hcount
    rw [List.length_cons] at hfuel hcount
    obtain ⟨n, rfl⟩ : ∃ n, fuel = n + 1 := ⟨fuel - 1, by omega⟩
    set rest := segments.flatMap Segment.bytes with hrest
    have hsplit : r.stream.bytes = seg.garbage ++ (seg.packet ++ rest) := by
      rw [hbytes, List.flatMap_cons, Segment.bytes, List.append_assoc]
    obtain ⟨b, bytes, hb⟩ : ∃ b bytes, r.stream.bytes = b :: bytes := by
      have hlen := seg.length_pos
      rw [← List.length_pos_iff_exists_cons, hbytes, List.flatMap_cons, List.length_append]
      omega
    have hwf := seg.wellFormed
    rw [← hsame.protocol, ← hsame.activeKey] at hwf
    have hstep := run_processSocketData (C := C) hS (by rw [hsame.devType]; exact hdev) hwf
      (hb ▸ hsplit) seg.short seg.clean (fun hc => by have := hcount hc; omega)
    have hadd : addI32 build received 1 = (.ok (received + 1) : Result Int32) := by
      apply addI32_ok
      intro hc
      have hone : (1 : Int32).toInt = 1 := rfl
      have := hcount hc
      omega
    have hnext : SameSettings s (consumed C S build device r seg.packet rest).device :=
      hsame.trans ((sameSettings_cached _ _).trans (sameSettings_counted _))
    have hcount' : build.overflowChecks = true → 0 ≤ (received + 1).toInt ∧
        (received + 1).toInt + segments.length < 2 ^ 31 ∧
        (consumed C S build device r seg.packet rest).device.successCount.toNat
          + segments.length < 2 ^ 32 := by
      intro hc
      obtain ⟨h₀, h₁, h₂⟩ := hcount hc
      have hsucc := toInt_succ h₀ (by omega)
      have hle := successCount_consumed_le C S build device r seg.packet rest
      omega
    obtain ⟨e, r', hrun, hsent⟩ := ih n (received + 1)
      (consumed C S build device r seg.packet rest) hnext rfl (by omega) hcount'
    refine ⟨e, r', ?_, ?_⟩
    · simp only [readerLoop, hb, hstep, hadd]
      exact hrun
    · rw [hsent, List.map_cons, ← delivery_congr C S build device hsame]
      simp [consumed]

theorem length_le_flatMap (segments : List (Segment build device s)) :
    segments.length ≤ (segments.flatMap Segment.bytes).length := by
  induction segments with
  | nil => exact Nat.le_refl _
  | cons seg segments ih =>
    have hpos := seg.length_pos
    rw [List.flatMap_cons, List.length_append, List.length_cons]
    omega

/-- On packets separated by garbage the reader task ends at the end of the stream, having
broadcast one message for each packet in order. The message for a packet is a function of
the packet. A build with overflow checks counts messages only up to its integer range. -/
theorem reader_delivers_each_packet (hS : S.Accepts) (r : Reader)
    (hdev : r.device.devType = .default ∨ r.device.devType = .device22)
    (segments : List (Segment build device r.device))
    (hbytes : r.stream.bytes = segments.flatMap Segment.bytes)
    (hcount : build.overflowChecks = true →
      r.device.successCount.toNat + segments.length < 2 ^ 31) :
    (∃ e r', readerTask C S build device r = (some (.reported e), r') ∧
      r'.broadcast = r.broadcast ++
        segments.map (fun seg => delivery C S build device r.device seg.packet)) ∧
    ∀ seg ∈ segments, (decoded C build device r.device seg.packet).Returns := by
  constructor
  · have hne : r.device.devType ≠ .auto := by
      rcases hdev with h | h <;> rw [h] <;> exact nofun
    have hfuel := length_le_flatMap segments
    rw [← hbytes] at hfuel
    refine readerLoop_delivers C S hS hne segments _ 0 r (SameSettings.refl _) hbytes
      (by omega) ?_
    intro hc
    have hzero : (0 : Int32).toInt = 0 := rfl
    have := hcount hc
    omega
  · intro seg _
    exact (decoded_returns seg.wellFormed).returns

end Runs

section Sample

def sampleDevice : Device := ⟨"bf0123", KnownAnswers.sampleKey.val⟩

def sampleState : State where
  configAddress := "192.168.0.10"
  realIp := "192.168.0.10"
  version := .v33
  devType := .default
  state := .connected
  persist := true
  sessionKey := none
  failureCount := 0
  successCount := 0
  forceDiscovery := false
  cipher := none

def corruptAck : Bytes := heartbeatAck.set 20 0

def ackSegment : Segment .release sampleDevice sampleState where
  garbage := [0xff, 0x00, 0x00, 0x55]
  packet := heartbeatAck
  short := by decide
  wellFormed := ⟨⟨fun _ _ => by decide, fun _ h => absurd h (by decide)⟩,
    ⟨_, rfl, by decide⟩, fun _ h => absurd h (by decide)⟩
  clean := by unfold Clean; decide

def corruptSegment : Segment .release sampleDevice sampleState where
  garbage := []
  packet := corruptAck
  short := by decide
  wellFormed := ⟨⟨fun _ _ => by decide, fun _ h => absurd h (by decide)⟩,
    ⟨_, rfl, by decide⟩, fun _ h => absurd h (by decide)⟩
  clean := by unfold Clean; decide

def sampleCodec : Codec :=
  KnownAnswers.json [.object (errorResponse errPayload (some (.string "CRC mismatch")))]

def sampleReader : Reader where
  device := sampleState
  stream := ⟨[ackSegment, corruptSegment, ackSegment].flatMap Segment.bytes, .eof⟩
  broadcast := []

theorem corrupt_packet_between_good_ones :
    decoded KnownAnswers.crates .release sampleDevice sampleState heartbeatAck
      = .ok ⟨1, 9, some 0, [], prefix55aa, none⟩ ∧
    decoded KnownAnswers.crates .release sampleDevice sampleState corruptAck
      = .err .crcMismatch ∧
    ∃ e r', readerTask KnownAnswers.crates sampleCodec .release sampleDevice sampleReader
        = (some (.reported e), r') ∧
      r'.broadcast = [heartbeatAck, corruptAck, heartbeatAck].map
        (delivery KnownAnswers.crates sampleCodec .release sampleDevice sampleState) := by
  refine ⟨by decide +kernel, by decide +kernel, ?_⟩
  exact (reader_delivers_each_packet KnownAnswers.crates sampleCodec
    (KnownAnswers.json_accepts _) sampleReader (Or.inl rfl)
    [ackSegment, corruptSegment, ackSegment] rfl nofun).1

end Sample

end StreamFraming
