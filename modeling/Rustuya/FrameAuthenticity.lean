import Rustuya.DeviceDetection
import Rustuya.ErrorEvents
import Rustuya.RequestRefinement
import Rustuya.SessionLifecycle
import Rustuya.SettingsOwnership
import Rustuya.StreamFraming

/-!
# Messages come from authentic frames

From version 3.4 on, a frame carries a tag of the key of the connection. A frame without a
valid tag is accepted only under its checksum, only as long as the device type is still to
be detected, and only once, since accepting it settles the device type. It is not delivered
as the message it carries, but its payload is added to the error that is delivered, and can
replace the code of it.
-/
namespace FrameAuthenticity

open CheckedExecution StatefulExecution ByteCodec Error Crypto Message Protocol Json DeviceState
open StreamReader ConnectionTask TransitionSystem RequestLifecycle RequestRefinement
open ConnectionLifecycle SettingsOwnership DeviceDetection FrameSafety StreamFraming

section Tags

variable {C : Crates} {build : Build}

/-- The tag of a complete frame is valid for the key: the HMAC between payload and suffix, or
the GCM tag of the ciphertext that follows the nonce. -/
def verifies (C : Crates) (key packet : Bytes) (header : TuyaHeader) : Bool :=
  let len := header.totalLength.toNat
  if header.msgPrefix = prefix6699 then
    let body := (packet.take (len - 4)).drop 18
    if h : key.length = 16 ∧ (body.take 12).length = 12 then
      (C.gcmDecrypt ⟨key, h.1⟩ ⟨body.take 12, h.2⟩ ((packet.take 18).drop 4) (body.drop 12)).isSome
    else false
  else
    decide (36 ≤ len) &&
      (C.hmacSha256 key (packet.take (len - 36))).val ==
        ((packet.take len).drop (len - 36)).take 32

def checksummed (C : Crates) (packet : Bytes) (header : TuyaHeader) : Bool :=
  let len := header.totalLength.toNat
  decide (header.msgPrefix = prefix55aa ∧ 8 ≤ len) &&
    C.crc32 (packet.take (len - 8)) == readU32 (((packet.take len).drop (len - 8)).take 4)

theorem slice_eq_ok {α ε : Type} {xs ys : List α} {i j : Nat}
    (h : (slice xs i j : Outcome ε (List α)) = .ok ys) :
    ys = (xs.take j).drop i ∧ i ≤ j ∧ j ≤ xs.length ∧ j ≤ isizeMax := by
  unfold slice at h
  split at h
  next hbounds =>
    cases h
    exact ⟨rfl, hbounds⟩
  · cases h

theorem sliceFrom_eq_ok {α ε : Type} {xs ys : List α} {i : Nat}
    (h : (sliceFrom xs i : Outcome ε (List α)) = .ok ys) : ys = xs.drop i := by
  unfold sliceFrom at h
  split at h <;> cases h
  rfl

theorem checkFooter_hmac {key checksumData footer : Bytes}
    (h : checkFooter C (some key) checksumData footer = .ok ()) :
    (C.hmacSha256 key checksumData).val = footer.take 32 := by
  obtain ⟨received, hslice, h⟩ := Outcome.bind_eq_ok h
  split at h
  · cases h
  next heq =>
    rw [(slice_eq_ok hslice).1] at heq
    exact not_not.mp heq

theorem checkFooter_crc {checksumData footer : Bytes}
    (h : checkFooter C none checksumData footer = .ok ()) :
    C.crc32 checksumData = readU32 (footer.take 4) := by
  obtain ⟨received, hslice, h⟩ := Outcome.bind_eq_ok h
  split at h
  · cases h
  next heq =>
    rw [(slice_eq_ok hslice).1] at heq
    exact not_not.mp heq

theorem unpack55aa_checked {packet : Bytes} {hmacKey : Option Bytes} {header : TuyaHeader}
    {mode : Option Bool} {d : TuyaMessage} (hdata : header.totalLength.toNat ≤ packet.length)
    (h : unpack55aa C build packet hmacKey header mode = .ok d) :
    endLen hmacKey ≤ header.totalLength.toNat ∧
      checkFooter C hmacKey (packet.take (header.totalLength.toNat - endLen hmacKey))
        ((packet.take header.totalLength.toNat).drop (header.totalLength.toNat - endLen hmacKey))
        = .ok () := by
  by_cases hlen : header.totalLength.toNat < endLen hmacKey
  · rw [unpack55aa_undersized C build hlen] at h
    cases h
  have hend : endLen hmacKey ≤ header.totalLength.toNat := Nat.le_of_not_lt hlen
  obtain ⟨stop, hstop⟩ : ∃ stop, header.totalLength.toNat = stop + endLen hmacKey :=
    ⟨_, (Nat.sub_add_cancel hend).symm⟩
  have hsub : header.totalLength.toNat - endLen hmacKey = stop := by omega
  by_cases hbody : 16 ≤ stop
  · rw [unpack55aa_eq C build hstop hbody hdata] at h
    obtain ⟨⟨⟩, hcheck, -⟩ := Outcome.bind_eq_ok h
    rw [hsub]
    exact ⟨hend, hcheck⟩
  · rw [unpack55aa_short C build hstop (Nat.lt_of_not_le hbody)] at h
    cases h

theorem unpack55aa_verifies {packet key : Bytes} {header : TuyaHeader} {mode : Option Bool}
    {d : TuyaMessage} (hframe : header.msgPrefix = prefix55aa)
    (hdata : header.totalLength.toNat ≤ packet.length)
    (h : unpack55aa C build packet (some key) header mode = .ok d) :
    verifies C key packet header = true := by
  obtain ⟨hend, hcheck⟩ := unpack55aa_checked hdata h
  have h36 : 36 ≤ header.totalLength.toNat := hend
  have hother : prefix55aa ≠ prefix6699 := by decide
  rw [verifies, if_neg (by rw [hframe]; exact hother), decide_eq_true h36, Bool.true_and,
    beq_iff_eq]
  exact checkFooter_hmac hcheck

theorem decrypt_gcm_isSome {cipher : TuyaCipher} {data iv aad text : Bytes} (hiv : iv.length = 12)
    (h : cipher.decrypt C data false (some iv) (some aad) = .ok text) :
    (C.gcmDecrypt cipher.key ⟨iv, hiv⟩ aad data).isSome = true := by
  have hslice : (slice iv 0 12 : Result Bytes) = .ok iv := by
    rw [slice_of_le (Nat.zero_le _) (Nat.le_of_eq hiv.symm) (by decide), List.drop_zero,
      List.take_of_length_le (Nat.le_of_eq hiv)]
  simp only [TuyaCipher.decrypt, Bool.false_eq_true, if_false, Outcome.ok_bind, hslice, hiv,
    dif_pos] at h
  cases hopen : C.gcmDecrypt cipher.key ⟨iv, hiv⟩ aad data with
  | some text => rfl
  | none =>
    rw [Option.getD_some, hopen] at h
    cases h

/-- A difference that a slice can end at did not wrap. -/
theorem subUsize_eq_ok {ε : Type} {a b n : Nat} (h : (subUsize build a b : Outcome ε Nat) = .ok n)
    (hb : b ≤ 2 ^ 63) (hn : n ≤ isizeMax) : b ≤ a ∧ n = a - b := by
  by_cases hle : b ≤ a
  · rw [subUsize_of_le build hle] at h
    cases h
    exact ⟨hle, rfl⟩
  · rcases subUsize_of_lt (ε := ε) build (Nat.lt_of_not_le hle) hb with hpanic | ⟨m, hm, hlarge⟩
    · rw [hpanic] at h
      cases h
    · rw [hm] at h
      cases h
      omega

theorem unpack6699_verifies {packet key : Bytes} {header : TuyaHeader} {mode : Option Bool}
    {d : TuyaMessage} (hframe : header.msgPrefix = prefix6699)
    (h : unpack6699 C build packet (some key) header mode = .ok d) :
    verifies C key packet header = true := by
  obtain ⟨key', hkey, h⟩ := Outcome.bind_eq_ok h
  cases hkey
  obtain ⟨stop, hstop, h⟩ := Outcome.bind_eq_ok h
  obtain ⟨body, hbody, h⟩ := Outcome.bind_eq_ok h
  split at h
  · cases h
  next hlong =>
  obtain ⟨iv, hiv, h⟩ := Outcome.bind_eq_ok h
  obtain ⟨ciphertext, hciphertext, h⟩ := Outcome.bind_eq_ok h
  obtain ⟨cipher, hcipher, h⟩ := Outcome.bind_eq_ok h
  obtain ⟨aad, haad, h⟩ := Outcome.bind_eq_ok h
  obtain ⟨text, htext, -⟩ := Outcome.bind_eq_ok h
  obtain ⟨rfl, -, -, hmax⟩ := slice_eq_ok hbody
  obtain ⟨-, rfl⟩ := subUsize_eq_ok hstop (by decide) hmax
  obtain ⟨rfl, -, -, -⟩ := slice_eq_ok hiv
  obtain ⟨rfl, -, -, -⟩ := slice_eq_ok haad
  obtain rfl := sliceFrom_eq_ok hciphertext
  obtain rfl := TaskRefinement.new_eq_ok hcipher
  rw [List.drop_zero] at htext
  have hnonce : (((packet.take (header.totalLength.toNat - 4)).drop 18).take 12).length = 12 := by
    rw [List.length_take]
    omega
  rw [verifies, if_pos hframe]
  dsimp only
  rw [dif_pos ⟨cipher.key.property, hnonce⟩]
  exact decrypt_gcm_isSome hnonce htext

theorem unpackMessage_verifies {packet key : Bytes} {header : TuyaHeader} {mode : Option Bool}
    {d : TuyaMessage} (h : unpackMessage C build packet (some key) (some header) mode = .ok d) :
    verifies C key packet header = true := by
  obtain ⟨hd, hhd, h⟩ := Outcome.bind_eq_ok h
  cases hhd
  dsimp only at h
  split at h
  · cases h
  next hdata =>
    split at h
    next hframe => exact unpack55aa_verifies hframe (Nat.le_of_not_lt hdata) h
    · split at h
      next hframe => exact unpack6699_verifies hframe h
      · cases h

theorem unpackMessage_checksummed {packet : Bytes} {header : TuyaHeader} {mode : Option Bool}
    {d : TuyaMessage} (h : unpackMessage C build packet none (some header) mode = .ok d) :
    checksummed C packet header = true := by
  obtain ⟨hd, hhd, h⟩ := Outcome.bind_eq_ok h
  cases hhd
  dsimp only at h
  split at h
  · cases h
  next hdata =>
    split at h
    next hframe =>
      obtain ⟨hend, hcheck⟩ := unpack55aa_checked (Nat.le_of_not_lt hdata) h
      have h8 : 8 ≤ header.totalLength.toNat := hend
      rw [checksummed, decide_eq_true ⟨hframe, h8⟩, Bool.true_and, beq_iff_eq]
      exact checkFooter_crc hcheck
    · split at h
      · obtain ⟨key, hkey, -⟩ := Outcome.bind_eq_ok h
        cases hkey
      · cases h

end Tags

section Decoding

variable {C : Crates} {build : Build} {device : Device} {version : Version} {devType : DeviceType}
  {cipher : TuyaCipher} {packet : Bytes} {header : TuyaHeader} {s t : State} {d : TuyaMessage}

theorem getHmacKey_eq (h : Negotiates version) (devType : DeviceType) (key : Bytes) :
    (getProtocol version devType).getHmacKey key = some key := by
  rcases h with rfl | rfl <;> cases devType <;> rfl

theorem fallback_version (h : Negotiates version)
    (hopen : (getProtocol version devType).shouldCheckDev22Fallback = true) : version = .v34 := by
  rcases h with rfl | rfl
  · rfl
  · cases devType <;> cases hopen

theorem accepted_verifies (hversion : Negotiates version)
    (h : unpackVerdict C build packet header version devType cipher = .accept d) :
    verifies C cipher.key.val packet header = true := by
  unfold unpackVerdict at h
  dsimp only at h
  rw [getHmacKey_eq hversion] at h
  split at h
  next hunpack => exact unpackMessage_verifies hunpack
  · split at h
    · split at h <;> cases h
    · cases h
  · cases h

/-- From version 3.4 on, a payload that does not decrypt is passed on as it is. -/
theorem decryptPayload_ok (hversion : Negotiates version) (devType : DeviceType) (payload : Bytes)
    (cipher : TuyaCipher) :
    ∃ text, (getProtocol version devType).decryptPayload C payload cipher = .ok text := by
  have h34 : ∃ text, decryptPayloadV34 C payload cipher = .ok text := by
    have hreturns := decrypt_ecb_returns (C := C) cipher payload none
    unfold decryptPayloadV34
    cases hdecrypt : cipher.decrypt C payload false none none with
    | ok text => exact ⟨_, rfl⟩
    | err e => exact ⟨_, rfl⟩
    | panic =>
      rw [hdecrypt] at hreturns
      exact hreturns.elim
  rcases hversion with rfl | rfl
  · cases devType <;> exact h34
  · cases devType <;> exact ⟨_, rfl⟩

theorem decrypt_decides (hversion : Negotiates version) {payload : Bytes} :
    (∀ {e}, decryptVerdict C payload version devType cipher ≠ .reject e) ∧
      decryptVerdict C payload version devType cipher ≠ .panic := by
  obtain ⟨text, htext⟩ := decryptPayload_ok (C := C) hversion
    (if devType = .auto then .default else devType) payload cipher
  unfold decryptVerdict
  dsimp only
  rw [htext]
  dsimp only
  constructor
  · intro e
    split <;> split <;> nofun
  · split <;> split <;> nofun

def Detects (s t : State) : Prop :=
  t.devType = s.devType ∨ s.devType = .auto ∧ t.devType = .device22

theorem decrypt_detects (hversion : Negotiates t.version)
    (hcipher : TuyaCipher.new (t.activeKey device) = .ok cipher) (payload : Bytes) :
    ∃ text t', (decryptAndCleanPayload C device payload).run t = (.ok text, t') ∧
      Detects t t' := by
  rw [run_decryptVerdict, checked, hcipher]
  dsimp only
  cases hverdict : decryptVerdict C payload t.version t.devType cipher with
  | accept text => exact ⟨text, _, rfl, .inl rfl⟩
  | adopt text => exact ⟨text, _, rfl, .inr ⟨decrypt_adopts hverdict, rfl⟩⟩
  | reject e => exact absurd hverdict (decrypt_decides hversion).1
  | panic => exact absurd hverdict (decrypt_decides hversion).2

theorem decode_of_unpacked
    (hunpack : (unpackAndCheckDev22 C build device packet header).run s = (.ok d, t))
    (hversion : Negotiates t.version)
    (hcipher : TuyaCipher.new (t.activeKey device) = .ok cipher) :
    ∃ d' t', (decodePacket C build device packet header).run s = (.ok d', t') ∧ Detects t t' := by
  rw [decodePacket, Program.run_bind_ok hunpack]
  by_cases hempty : d.payload.isEmpty = true
  · rw [if_pos hempty]
    exact ⟨d, t, rfl, .inl rfl⟩
  · rw [if_neg hempty]
    obtain ⟨text, t', hdecrypt, hdetects⟩ :=
      decrypt_detects (C := C) hversion hcipher d.payload
    exact ⟨{ d with payload := text }, t', Program.run_bind_ok hdecrypt, hdetects⟩

def accepts (C : Crates) (build : Build) (device : Device) (s : State) (packet : Bytes)
    (header : TuyaHeader) : Bool :=
  match ((unpackAndCheckDev22 C build device packet header).run s).1 with
  | .ok _ => true
  | .err _ | .panic => false

/-- What decoding a frame can do: refuse it, decode an authentic frame, or decode a frame under its
checksum and settle the device type. -/
inductive Decodes (C : Crates) (build : Build) (device : Device) (packet : Bytes)
    (header : TuyaHeader) (s : State) : Result TuyaMessage × State → Prop where
  | refused (out : Result TuyaMessage) (t : State) (hfail : ∀ d, out ≠ .ok d)
      (hrefused : accepts C build device s packet header = false)
      (hsame : t.devType = s.devType) : Decodes C build device packet header s (out, t)
  | authentic (d : TuyaMessage) (t : State)
      (htag : verifies C (s.activeKey device) packet header = true) (hdetects : Detects s t) :
      Decodes C build device packet header s (.ok d, t)
  | fallback (d : TuyaMessage) (t : State) (hversion : s.version = .v34)
      (hauto : s.devType = .auto) (hsettled : t.devType = .device22) :
      Decodes C build device packet header s (.ok d, t)

theorem decodePacket_decodes (C : Crates) (build : Build) (device : Device) (packet : Bytes)
    (header : TuyaHeader) (hversion : Negotiates s.version) :
    ∃ decode, (decodePacket C build device packet header).run s = decode ∧
      Decodes C build device packet header s decode := by
  have hunpack := run_unpackVerdict C build device packet header s
  rw [checked] at hunpack
  cases hcipher : TuyaCipher.new (s.activeKey device) with
  | err e =>
    rw [hcipher] at hunpack
    exact ⟨_, Program.run_bind_err hunpack,
      .refused _ _ (fun _ hok => by cases hok) (by rw [accepts, hunpack]) rfl⟩
  | panic =>
    rw [hcipher] at hunpack
    exact ⟨_, Program.run_bind_panic hunpack,
      .refused _ _ (fun _ hok => by cases hok) (by rw [accepts, hunpack]) rfl⟩
  | ok cipher =>
    rw [hcipher] at hunpack
    dsimp only at hunpack
    have hkey := TaskRefinement.new_eq_ok hcipher
    cases hverdict : unpackVerdict C build packet header s.version s.devType cipher with
    | accept d =>
      rw [hverdict] at hunpack
      obtain ⟨d', t, hdecode, hdetects⟩ := decode_of_unpacked hunpack hversion hcipher
      refine ⟨_, hdecode, .authentic d' t ?_ hdetects⟩
      rw [← hkey]
      exact accepted_verifies hversion hverdict
    | adopt d =>
      rw [hverdict] at hunpack
      obtain ⟨hauto, hopen⟩ := unpack_adopts hverdict
      obtain ⟨d', t, hdecode, hdetects⟩ := decode_of_unpacked hunpack hversion hcipher
      refine ⟨_, hdecode, .fallback d' t (fallback_version hversion hopen) hauto ?_⟩
      rcases hdetects with hsame | ⟨hfalse, -⟩
      · exact hsame
      · cases hfalse
    | reject e =>
      rw [hverdict] at hunpack
      exact ⟨_, Program.run_bind_err hunpack,
        .refused _ _ (fun _ hok => by cases hok) (by rw [accepts, hunpack]; rfl) rfl⟩
    | panic =>
      rw [hverdict] at hunpack
      exact ⟨_, Program.run_bind_panic hunpack,
        .refused _ _ (fun _ hok => by cases hok) (by rw [accepts, hunpack]; rfl) rfl⟩

end Decoding

section Reading

variable (C : Crates) (S : Codec) (build : Build) (device : Device)

def readFrame (firstByte : UInt8) : ReadM (Option (Bytes × TuyaHeader)) := do
  match ← scanForPrefix firstByte with
  | none => return none
  | some framePrefix =>
    let rest ← readExact 12
    let frame ← readFullPacket build (framePrefix ++ rest)
    return some frame

def frameIn (s : State) (firstByte : UInt8) (stream : Stream) : Option (Bytes × TuyaHeader) :=
  match ((readFrame build firstByte).run ⟨s, stream, []⟩).1 with
  | .ok frame => frame
  | .err _ | .panic => none

/-- What is made of a frame, from the device type before and the outcome of decoding it. -/
def reported (before : DeviceType) : Result TuyaMessage × State → Result (Option TuyaMessage)
  | (.ok msg, s) =>
    if before ≠ .device22 ∧ s.devType = .device22 then
      .ok (some (errorHelper S s errDevtype (some (originalPayload S msg))))
    else .ok (some msg)
  | (.err e, s) =>
    if e.isIo then .err e else .ok (some (errorHelper S s errPayload (some (.string e.display))))
  | (.panic, _) => .panic

/-- The end of `read_and_parse_from_stream`, for a body that is read by `x`. -/
def handled (before : DeviceType) (x : ReadM TuyaMessage) : ReadM (Option TuyaMessage) :=
  Program.orElse
    (do
      let msg ← x
      let r ← Program.read id
      if before ≠ .device22 ∧ r.device.devType = .device22 then
        return some (errorHelper S r.device errDevtype (some (originalPayload S msg)))
      else return some msg)
    fun e =>
      if e.isIo then Program.fail e
      else do
        let r ← Program.read id
        return some (errorHelper S r.device errPayload (some (.string e.display)))

theorem run_handled (before : DeviceType) {x : ReadM TuyaMessage} {r r' : Reader}
    {out : Result TuyaMessage} (hx : x.run r = (out, r')) :
    (handled S before x).run r = (reported S before (out, r'.device), r') := by
  unfold handled
  cases out with
  | panic => simp only [Program.orElse, Program.run_bind_panic hx, reported]
  | err e =>
    rw [Program.run_orElse_err (Program.run_bind_err hx), reported]
    split <;> rfl
  | ok msg =>
    rw [reported]
    by_cases hset : before ≠ .device22 ∧ r'.device.devType = .device22
    · rw [if_pos hset]
      refine Program.run_orElse_ok ?_
      rw [Program.run_bind_ok hx, Program.run_bind_ok (Program.run_read id r')]
      dsimp only [id]
      rw [if_pos hset]
      rfl
    · rw [if_neg hset]
      refine Program.run_orElse_ok ?_
      rw [Program.run_bind_ok hx, Program.run_bind_ok (Program.run_read id r')]
      dsimp only [id]
      rw [if_neg hset]
      rfl

/-- How reading ends: without a frame and with nothing but an error message, or with a frame
that is decoded under the settings of the device. -/
theorem readAndParse_cases (C : Crates) (S : Codec) (build : Build) (device : Device)
    (firstByte : UInt8) (s : State) (stream : Stream) :
    (frameIn build s firstByte stream = none ∧
      ((readAndParseFromStream C S build device firstByte).run ⟨s, stream, []⟩).2.device = s ∧
      ∀ m, ((readAndParseFromStream C S build device firstByte).run ⟨s, stream, []⟩).1
        = .ok (some m) → m.cmd = 0) ∨
    (∃ packet header, frameIn build s firstByte stream = some (packet, header) ∧
      ((readAndParseFromStream C S build device firstByte).run ⟨s, stream, []⟩).1
        = reported S s.devType ((decodePacket C build device packet header).run s) ∧
      ((readAndParseFromStream C S build device firstByte).run ⟨s, stream, []⟩).2.device
        = ((decodePacket C build device packet header).run s).2) := by
  unfold frameIn readFrame readAndParseFromStream
  have hscanned := ((scanForPrefix_aside firstByte).comp Prod.fst) ⟨s, stream, []⟩
  rcases hscan : (scanForPrefix firstByte).run ⟨s, stream, []⟩ with ⟨out, r₁⟩
  rw [hscan] at hscanned
  cases out with
  | err e =>
    rw [Program.run_bind_err hscan, Program.run_bind_err hscan]
    exact .inl ⟨rfl, hscanned, nofun⟩
  | panic =>
    rw [Program.run_bind_panic hscan, Program.run_bind_panic hscan]
    exact .inl ⟨rfl, hscanned, nofun⟩
  | ok found =>
  rw [Program.run_bind_ok hscan, Program.run_bind_ok hscan]
  cases found with
  | none => exact .inl ⟨rfl, hscanned, nofun⟩
  | some framePrefix =>
  dsimp only
  have hheld := ((readExact_aside 12).comp Prod.fst) r₁
  rcases hrest : (readExact 12).run r₁ with ⟨out, r₂⟩
  rw [hrest] at hheld
  cases out with
  | err e =>
    rw [Program.run_bind_err hrest, Program.run_bind_err hrest]
    exact .inl ⟨rfl, hheld.trans hscanned, nofun⟩
  | panic =>
    rw [Program.run_bind_panic hrest, Program.run_bind_panic hrest]
    exact .inl ⟨rfl, hheld.trans hscanned, nofun⟩
  | ok rest =>
  rw [Program.run_bind_ok hrest, Program.run_bind_ok hrest,
    Program.run_bind_ok (Program.run_read _ r₂)]
  obtain rfl : r₂.device = s := hheld.trans hscanned
  have hbody := ((readFullPacket_aside build (framePrefix ++ rest)).comp Prod.fst) r₂
  rcases hfull : (readFullPacket build (framePrefix ++ rest)).run r₂ with ⟨out, r₃⟩
  rw [hfull] at hbody
  have hend := fun {out r'} (hparse : (parseAndReadBody C build device (framePrefix ++ rest)).run r₂
    = (out, r')) => run_handled S r₂.device.devType hparse
  unfold handled at hend
  cases out with
  | panic =>
    rw [Program.run_bind_panic hfull, hend (Program.run_bind_panic hfull)]
    exact .inl ⟨rfl, hbody, nofun⟩
  | err e =>
    rw [Program.run_bind_err hfull, hend (Program.run_bind_err hfull)]
    refine .inl ⟨rfl, hbody, ?_⟩
    intro m hm
    rw [reported] at hm
    split at hm <;> cases hm
    rfl
  | ok frame =>
    obtain ⟨packet, header⟩ := frame
    have hsame : r₃.device = r₂.device := hbody
    have hparse : (parseAndReadBody C build device (framePrefix ++ rest)).run r₂
        = (((decodePacket C build device packet header).run r₂.device).1,
          r₃.withDevice ((decodePacket C build device packet header).run r₂.device).2) := by
      rw [← hsame, parseAndReadBody, Program.run_bind_ok hfull]
      rfl
    rw [Program.run_bind_ok hfull, hend hparse]
    exact .inr ⟨packet, header, rfl, rfl, rfl⟩

def messageIn (s : State) (firstByte : UInt8) (stream : Stream) : Option TuyaMessage :=
  match ((readAndParseFromStream C S build device firstByte).run ⟨s, stream, []⟩).1 with
  | .ok msg => msg
  | .err _ | .panic => none

variable {C S build device} {s : State} {firstByte : UInt8} {stream : Stream}

/-- The error that tells of the device type, with the payload of the decoded frame. -/
def detection (S : Codec) (t : State) (d : TuyaMessage) : TuyaMessage :=
  errorHelper S t errDevtype (some (originalPayload S d))

/-- `m` is that error, or what is told in its place if its text is not accepted as JSON. -/
def Settlement (S : Codec) (t : State) (d m : TuyaMessage) : Prop :=
  m = detection S t d ∨
    S.fromSlice (detection S t d).payload = none ∧
      m = errorHelper S t errJson (some (nonJsonPayload (detection S t d)))

/-- The payload replaces neither the code nor the text of the error, and the error is accepted
as JSON. -/
structure Unobtrusive (S : Codec) (payload : Value) : Prop where
  distinct : ∀ obj, payload = .object obj → Map.Distinct obj
  errorCode : ∀ (obj : Map) v, payload = .object obj → obj.get keyErrCode = some v →
    v = .ofNat errDevtype
  errorMsg : ∀ (obj : Map) v, payload = .object obj → obj.get keyErrMsg = some v →
    v = .string (getErrorMessage errDevtype)
  accepted : (S.fromSlice (S.toVec (.object (errorResponse errDevtype (some payload))))).isSome

def TellsDevtype (S : Codec) (m : TuyaMessage) : Prop :=
  m.cmd = 0 ∧ ∃ response : Map, m.payload = S.toVec (.object response) ∧
    response.get keyErrCode = some (.ofNat errDevtype) ∧
    response.get keyErrMsg = some (.string (getErrorMessage errDevtype))

theorem Unobtrusive.response {payload : Value} (h : Unobtrusive S payload) :
    (errorResponse errDevtype (some payload)).get keyErrCode = some (.ofNat errDevtype) ∧
      (errorResponse errDevtype (some payload)).get keyErrMsg
        = some (.string (getErrorMessage errDevtype)) := by
  by_cases hobject : ∃ obj, payload = .object obj
  · obtain ⟨obj, rfl⟩ := hobject
    have hdistinct := h.distinct obj rfl
    exact ⟨(ErrorEvents.response_code_iff errDevtype hdistinct).mpr (h.errorCode obj · rfl),
      (ErrorEvents.response_msg_iff errDevtype hdistinct).mpr (h.errorMsg obj · rfl)⟩
  · have hgenuine : ErrorEvents.Genuine errDevtype (some payload) _ :=
      ErrorEvents.genuine_of_not_object errDevtype fun obj hobj =>
        hobject ⟨obj, Option.some.inj hobj⟩
    exact ⟨hgenuine.errorCode, hgenuine.errorMsg⟩

theorem Settlement.tells {t : State} {d m : TuyaMessage} (h : Settlement S t d m)
    (hpayload : Unobtrusive S (originalPayload S d)) : TellsDevtype S m := by
  rcases h with rfl | ⟨hrejected, -⟩
  · exact ⟨rfl, _, rfl, hpayload.response⟩
  · have haccepted := hpayload.accepted
    rw [show S.fromSlice (S.toVec _) = none from hrejected] at haccepted
    cases haccepted

theorem reported_refused {before : DeviceType} {out : Result TuyaMessage} {t : State}
    (hfail : ∀ d, out ≠ .ok d) {m : TuyaMessage} (h : reported S before (out, t) = .ok (some m)) :
    m.cmd = 0 := by
  cases out with
  | ok d => exact absurd rfl (hfail d)
  | panic => cases h
  | err e =>
    rw [reported] at h
    split at h <;> cases h
    rfl

theorem reported_settled {before : DeviceType} {t : State} (hbefore : before ≠ .device22)
    (hsettled : t.devType = .device22) (d : TuyaMessage) :
    reported S before (.ok d, t) = .ok (some (detection S t d)) :=
  if_pos ⟨hbefore, hsettled⟩

theorem messageIn_authentic (hversion : Negotiates s.version) {m : TuyaMessage}
    (h : messageIn C S build device s firstByte stream = some m) (hcmd : m.cmd ≠ 0) :
    ∃ packet header, frameIn build s firstByte stream = some (packet, header) ∧
      verifies C (s.activeKey device) packet header = true := by
  have hread : ((readAndParseFromStream C S build device firstByte).run ⟨s, stream, []⟩).1
      = .ok (some m) := by
    unfold messageIn at h
    split at h
    next hok =>
      rw [hok, h]
    · cases h
    · cases h
  rcases readAndParse_cases C S build device firstByte s stream with
    ⟨-, -, hzero⟩ | ⟨packet, header, hframe, hout, -⟩
  · exact absurd (hzero m hread) hcmd
  · refine ⟨packet, header, hframe, ?_⟩
    rw [hout] at hread
    obtain ⟨decode, hdecode, hdecodes⟩ :=
      decodePacket_decodes C build device packet header hversion
    rw [hdecode] at hread
    cases hdecodes with
    | refused out t hfail hrefused hsame => exact absurd (reported_refused hfail hread) hcmd
    | authentic d t htag hdetects => exact htag
    | fallback d t hv34 hauto hsettled =>
      rw [reported_settled (by rw [hauto]; nofun) hsettled] at hread
      cases hread
      exact absurd rfl hcmd

theorem afterReading_detects (hversion : Negotiates s.version) :
    Detects s (afterReading C S build device s firstByte stream) := by
  unfold afterReading
  rcases readAndParse_cases C S build device firstByte s stream with
    ⟨-, hsame, -⟩ | ⟨packet, header, -, -, hdevice⟩
  · rw [hsame]
    exact .inl rfl
  · obtain ⟨decode, hdecode, hdecodes⟩ :=
      decodePacket_decodes C build device packet header hversion
    rw [hdevice, hdecode]
    cases hdecodes with
    | refused out t hfail hrefused hsame => exact .inl hsame
    | authentic d t htag hdetects => exact hdetects
    | fallback d t hv34 hauto hsettled => exact .inr ⟨hauto, hsettled⟩

theorem forged_auto (hversion : Negotiates s.version) {packet : Bytes} {header : TuyaHeader}
    (haccepts : accepts C build device s packet header = true)
    (hforged : verifies C (s.activeKey device) packet header = false) :
    s.version = .v34 ∧ s.devType = .auto := by
  obtain ⟨decode, -, hdecodes⟩ := decodePacket_decodes C build device packet header hversion
  cases hdecodes with
  | refused out t hfail hrefused hsame =>
    rw [haccepts] at hrefused
    cases hrefused
  | authentic d t htag hdetects =>
    rw [hforged] at htag
    cases htag
  | fallback d t hv34 hauto hsettled => exact ⟨hv34, hauto⟩

theorem forged_settles (hversion : Negotiates s.version) {packet : Bytes} {header : TuyaHeader}
    (hframe : frameIn build s firstByte stream = some (packet, header))
    (haccepts : accepts C build device s packet header = true)
    (hforged : verifies C (s.activeKey device) packet header = false) :
    ∃ d, (decodePacket C build device packet header).run s
        = (.ok d, afterReading C S build device s firstByte stream) ∧
      (afterReading C S build device s firstByte stream).devType = .device22 ∧
      messageIn C S build device s firstByte stream
        = some (detection S (afterReading C S build device s firstByte stream) d) := by
  unfold afterReading messageIn
  rcases readAndParse_cases C S build device firstByte s stream with
    ⟨hnone, -, -⟩ | ⟨packet', header', hsome, hout, hdevice⟩
  · rw [hnone] at hframe
    cases hframe
  · rw [hframe] at hsome
    cases hsome
    obtain ⟨decode, hdecode, hdecodes⟩ :=
      decodePacket_decodes C build device packet header hversion
    rw [hout, hdevice, hdecode]
    cases hdecodes with
    | refused out t hfail hrefused hsame =>
      rw [haccepts] at hrefused
      cases hrefused
    | authentic d t htag hdetects =>
      rw [hforged] at htag
      cases htag
    | fallback d t hv34 hauto hsettled =>
      rw [reported_settled (by rw [hauto]; nofun) hsettled]
      exact ⟨d, rfl, hsettled, rfl⟩

theorem processSocketData_sends {m : TuyaMessage}
    (hm : m ∈ ((processSocketData C S build device firstByte).run ⟨s, stream, []⟩).2.broadcast) :
    ∃ msg, messageIn C S build device s firstByte stream = some msg ∧
      (m = msg ∨ S.fromSlice msg.payload = none ∧
        m = errorHelper S (afterReading C S build device s firstByte stream) errJson
          (some (nonJsonPayload msg))) := by
  obtain ⟨msg, r, hread, hsent⟩ := mem_processSocketData hm
  refine ⟨msg, by rw [messageIn, hread], ?_⟩
  rw [afterReading, hread]
  rcases hsent with ⟨rfl, -⟩ | hreplaced
  · exact .inl rfl
  · exact .inr hreplaced

end Reading

section Steps

variable (C : Crates) (S : Codec) (build : Build) (device : Device)

def frameRead (w : World) (e : Event) : Option (Bytes × TuyaHeader) :=
  (reading w e).bind fun (firstByte, stream) => frameIn build w.shared firstByte stream

def forged (w : World) (e : Event) : Bool :=
  (frameRead build w e).any fun (packet, header) =>
    accepts C build device w.shared packet header &&
      !verifies C (w.shared.activeKey device) packet header

/-- The message that the negotiation is given as the response of the device. -/
def response (w : World) : Event → Option TuyaMessage
  | .task (.response firstByte stream) =>
    (reading w (.task (.response firstByte stream))).bind fun _ =>
      messageIn C S build device w.shared firstByte stream
  | _ => none

/-- What a step hands to the listeners or to the negotiation. -/
def delivered (w : World) (e : Event) (w' : World) : List TuyaMessage :=
  newMessages w w' ++ (response C S build device w e).toList

variable {C S build device} {w w' : World} {e : Event}

theorem awaitResponse_silent {a : Attempt} {protocol : TuyaProtocol} {nonce : U8Array 16}
    {e : TaskEvent} (h : awaitResponse C S build device w a protocol nonce e = some w') :
    w'.broadcast = w.broadcast := by
  unfold awaitResponse respondTo at h
  grind [World.goto, World.finish]

theorem reading_by_task {bytes : UInt8 × Stream} (h : reading w e = some bytes)
    (hreader : ¬ ∃ firstByte stream, e = .reader (.packet firstByte stream) ∨
      e = .reader (.late firstByte stream)) :
    ∃ a protocol nonce te, e = .task te ∧ w.pc = .connecting a (.awaitResponse protocol nonce) := by
  unfold reading at h
  split at h
  · exact absurd ⟨_, _, .inl rfl⟩ hreader
  · exact absurd ⟨_, _, .inr rfl⟩ hreader
  · split at h
    next hpc => exact ⟨_, _, _, _, rfl, hpc⟩
    · cases h
  · cases h

theorem response_read {m : TuyaMessage} (h : response C S build device w e = some m) :
    ∃ firstByte stream, reading w e = some (firstByte, stream) ∧
      messageIn C S build device w.shared firstByte stream = some m := by
  unfold response at h
  split at h
  next firstByte stream =>
    obtain ⟨bytes, hreading, hmsg⟩ := Option.bind_eq_some_iff.mp h
    have hbytes : bytes = (firstByte, stream) := by
      unfold reading at hreading
      dsimp only at hreading
      split at hreading <;> cases hreading
      rfl
    rw [hbytes] at hreading
    exact ⟨firstByte, stream, hreading, hmsg⟩
  · cases h

theorem newMessages_cases (h : next C S build device w e = some w') {m : TuyaMessage}
    (hm : m ∈ newMessages w w') :
    (∃ firstByte stream msg, reading w e = some (firstByte, stream) ∧
      messageIn C S build device w.shared firstByte stream = some msg ∧
      (m = msg ∨ S.fromSlice msg.payload = none ∧ m = errorHelper S
        (afterReading C S build device w.shared firstByte stream) errJson
          (some (nonJsonPayload msg)))) ∨
    (reading w e = none ∧ m.cmd = 0) := by
  have hstep := next_step h
  by_cases hheard : ∃ firstByte stream, e = .reader (.packet firstByte stream) ∨
      e = .reader (.late firstByte stream)
  · obtain ⟨firstByte, stream, rfl | rfl⟩ := hheard
    all_goals
      have hincoming : newMessages w w' = _ := step_heard hstep
      rw [hincoming] at hm
      obtain ⟨msg, hmsg, hsent⟩ := processSocketData_sends hm
      exact .inl ⟨firstByte, stream, msg, rfl, hmsg, hsent⟩
  · have hcmd : m.cmd = 0 :=
      step_announces hstep (fun msgs hdeed => hheard (deed_heard hdeed)) m hm
    cases hreading : reading w e with
    | none => exact .inr ⟨rfl, hcmd⟩
    | some bytes =>
      -- The task reads a response, and tells nobody.
      obtain ⟨a, protocol, nonce, te, rfl, hpc⟩ := reading_by_task hreading hheard
      rw [next, taskNext, hpc] at h
      have hsilent : newMessages w w' = [] := by
        rw [newMessages, awaitResponse_silent h, List.drop_length]
      rw [hsilent] at hm
      cases hm

theorem delivered_read (h : next C S build device w e = some w') {m : TuyaMessage}
    (hm : m ∈ delivered C S build device w e w') (hcmd : m.cmd ≠ 0) :
    ∃ firstByte stream, reading w e = some (firstByte, stream) ∧
      messageIn C S build device w.shared firstByte stream = some m := by
  rcases List.mem_append.mp hm with hm | hm
  · rcases newMessages_cases h hm with ⟨firstByte, stream, msg, hreading, hmsg, hsent⟩ | ⟨-, hzero⟩
    · rcases hsent with rfl | ⟨-, rfl⟩
      · exact ⟨firstByte, stream, hreading, hmsg⟩
      · exact absurd rfl hcmd
    · exact absurd hzero hcmd
  · exact response_read (Option.mem_toList.mp hm)

theorem delivered_settlement (h : next C S build device w e = some w') {firstByte : UInt8}
    {stream : Stream} (hreading : reading w e = some (firstByte, stream)) {d : TuyaMessage}
    (hmsg : messageIn C S build device w.shared firstByte stream
      = some (detection S (afterReading C S build device w.shared firstByte stream) d)) :
    ∀ m ∈ delivered C S build device w e w',
      Settlement S (afterReading C S build device w.shared firstByte stream) d m := by
  intro m hm
  rcases List.mem_append.mp hm with hm | hm
  · rcases newMessages_cases h hm with ⟨b, st, msg, hread, hmsg', hsent⟩ | ⟨hnone, -⟩
    · rw [hreading] at hread
      cases hread
      rw [hmsg] at hmsg'
      cases hmsg'
      exact hsent
    · rw [hreading] at hnone
      cases hnone
  · obtain ⟨b, st, hread, hmsg'⟩ := response_read (Option.mem_toList.mp hm)
    rw [hreading] at hread
    cases hread
    rw [hmsg] at hmsg'
    cases hmsg'
    exact .inl rfl

end Steps

section Runs

variable {C : Crates} {S : Codec} {build : Build} {device : Device} {w w' : World} {e : Event}
  {es : List Event}

def setsDevType : Event → Bool
  | .user (.setDevType _) => true
  | _ => false

/-- The device speaks version 3.4, and the user does not set its type. -/
def OnV34 (w : World) (e : Event) : Prop := w.shared.version = .v34 ∧ setsDevType e = false

theorem step_detects (hallowed : OnV34 w e) (h : next C S build device w e = some w') :
    Detects w.shared w'.shared := by
  cases next_change h with
  | kept hsame => exact .inl (congrArg Settings.devType hsame)
  | detected version hauto hsame => exact .inl (congrArg Settings.devType hsame)
  | read firstByte stream hreading hsame =>
    have hdev := congrArg Settings.devType hsame
    rw [Detects, show w'.shared.devType = _ from hdev]
    exact afterReading_detects (.inl hallowed.1)
  | user u f he hf hsame =>
    subst he
    rw [Detects, hsame]
    cases u with
    | setDevType devType => cases hallowed.2
    | setPersist | setVersion | setAddress =>
      cases hf
      exact .inl rfl
    | _ => cases hf

theorem forged_cases (hforged : forged C build device w e = true) :
    ∃ firstByte stream packet header, reading w e = some (firstByte, stream) ∧
      frameIn build w.shared firstByte stream = some (packet, header) ∧
      accepts C build device w.shared packet header = true ∧
      verifies C (w.shared.activeKey device) packet header = false := by
  rw [forged, Option.any_eq_true] at hforged
  obtain ⟨⟨packet, header⟩, hframe, htest⟩ := hforged
  obtain ⟨⟨firstByte, stream⟩, hreading, hframe⟩ := Option.bind_eq_some_iff.mp hframe
  rw [Bool.and_eq_true, Bool.not_eq_true'] at htest
  exact ⟨firstByte, stream, packet, header, hreading, hframe, htest⟩

theorem forged_step (hversion : Negotiates w.shared.version)
    (h : next C S build device w e = some w') (hforged : forged C build device w e = true) :
    w.shared.devType = .auto ∧ w'.shared.devType = .device22 ∧
      ∃ packet header d t, frameRead build w e = some (packet, header) ∧
        (decodePacket C build device packet header).run w.shared = (.ok d, t) ∧
        ∀ m ∈ delivered C S build device w e w', Settlement S t d m := by
  obtain ⟨firstByte, stream, packet, header, hreading, hframe, haccepts, hinvalid⟩ :=
    forged_cases hforged
  obtain ⟨d, hdecode, hsettled, hmsg⟩ :=
    forged_settles (S := S) hversion hframe haccepts hinvalid
  refine ⟨(forged_auto hversion haccepts hinvalid).2, ?_, packet, header, d, _, ?_, hdecode,
    delivered_settlement h hreading hmsg⟩
  · have hdev := congrArg Settings.devType (reading_settings h hreading)
    exact hdev.trans hsettled
  · rw [frameRead, hreading]
    exact hframe

theorem not_forged (hclosed : w.shared.version = .v34 ∧ w.shared.devType ≠ .auto ∨
    w.shared.version = .v35) : forged C build device w e = false := by
  by_contra hforged
  rw [Bool.not_eq_false] at hforged
  obtain ⟨-, -, packet, header, -, -, haccepts, hinvalid⟩ := forged_cases hforged
  have hversion : Negotiates w.shared.version := by
    rcases hclosed with ⟨h34, -⟩ | h35
    · exact .inl h34
    · exact .inr h35
  obtain ⟨h34, hauto⟩ := forged_auto hversion haccepts hinvalid
  rcases hclosed with ⟨-, hknown⟩ | h35
  · exact hknown hauto
  · rw [h35] at h34
    cases h34

def forgeries (C : Crates) (build : Build) (device : Device) (w : World) (e : Event) : List Unit :=
  if forged C build device w e then [()] else []

theorem run_closed {v : World} (hrun : Execution (next C S build device) OnV34 v es w)
    (hknown : v.shared.devType ≠ .auto) :
    harvest (forgeries C build device) (next C S build device) v es = [] ∧
      w.shared.devType = v.shared.devType := by
  induction hrun with
  | nil v => exact ⟨rfl, rfl⟩
  | @cons v t w e es hallowed hnext _ ih =>
    have hsame : t.shared.devType = v.shared.devType := by
      rcases step_detects hallowed hnext with hsame | ⟨hauto, -⟩
      · exact hsame
      · exact absurd hauto hknown
    obtain ⟨hnone, hdev⟩ := ih (by rw [hsame]; exact hknown)
    have hmark : forgeries C build device v e = [] := by
      rw [forgeries, not_forged (.inl ⟨hallowed.1, hknown⟩)]
      rfl
    refine ⟨?_, hdev.trans hsame⟩
    rw [harvest, hnext, Option.elim_some, hmark, hnone]
    rfl

theorem run_forged_once {v : World} (hrun : Execution (next C S build device) OnV34 v es w) :
    (harvest (forgeries C build device) (next C S build device) v es).length ≤ 1 ∧
      (harvest (forgeries C build device) (next C S build device) v es ≠ [] →
        w.shared.devType = .device22) := by
  induction hrun with
  | nil v => exact ⟨Nat.zero_le 1, fun h => absurd rfl h⟩
  | @cons v t w e es hallowed hnext hrest ih =>
    rw [harvest, hnext, Option.elim_some]
    cases hforged : forged C build device v e with
    | false =>
      rw [forgeries, hforged]
      exact ih
    | true =>
      obtain ⟨-, hsettled, -⟩ := forged_step (.inl hallowed.1) hnext hforged
      obtain ⟨hnone, hdev⟩ := run_closed hrest (by rw [hsettled]; decide)
      rw [forgeries, hforged, hnone]
      exact ⟨Nat.le_refl 1, fun _ => hdev.trans hsettled⟩

/-- In every run on version 3.4 in which the user does not set the device type: every message
with a command that is delivered comes from a frame with a valid tag; at most one frame
without a valid tag is accepted, which closes the fallback and is told as the detection of the
device type together with its payload. That message is an error with the code of a detected
device type unless the payload interferes. With a known device type, and in version 3.5, no
such frame is accepted at all. -/
theorem unauthentic_frame_at_most_once (C : Crates) (S : Codec) (build : Build) (b : DeviceBuilder)
    (hrun : Execution (next C S build b.device) OnV34 b.run es w) :
    ((harvest (forgeries C build b.device) (next C S build b.device) b.run es).length ≤ 1 ∧
      (harvest (forgeries C build b.device) (next C S build b.device) b.run es ≠ [] →
        w.shared.devType = .device22)) ∧
    (∀ e w', OnV34 w e → next C S build b.device w e = some w' →
      (∀ m ∈ delivered C S build b.device w e w', m.cmd ≠ 0 →
        ∃ packet header, frameRead build w e = some (packet, header) ∧
          verifies C (w.shared.activeKey b.device) packet header = true) ∧
      (forged C build b.device w e = true →
        w.shared.devType = .auto ∧ w'.shared.devType = .device22 ∧
        ∃ packet header d t, frameRead build w e = some (packet, header) ∧
          (decodePacket C build b.device packet header).run w.shared = (.ok d, t) ∧
          ∀ m ∈ delivered C S build b.device w e w', Settlement S t d m ∧
            (Unobtrusive S (originalPayload S d) → TellsDevtype S m))) ∧
    (∀ v e, v.shared.version = .v34 ∧ v.shared.devType ≠ .auto ∨ v.shared.version = .v35 →
      forged C build b.device v e = false) := by
  refine ⟨run_forged_once hrun, ?_, fun v e hclosed => not_forged hclosed⟩
  intro e w' hallowed hnext
  constructor
  · intro m hm hcmd
    obtain ⟨firstByte, stream, hreading, hmsg⟩ := delivered_read hnext hm hcmd
    obtain ⟨packet, header, hframe, htag⟩ := messageIn_authentic (.inl hallowed.1) hmsg hcmd
    refine ⟨packet, header, ?_, htag⟩
    rw [frameRead, hreading]
    exact hframe
  · intro hforged
    obtain ⟨hauto, hsettled, packet, header, d, t, hframe, hdecode, hdelivered⟩ :=
      forged_step (.inl hallowed.1) hnext hforged
    exact ⟨hauto, hsettled, packet, header, d, t, hframe, hdecode, fun m hm =>
      ⟨hdelivered m hm, (hdelivered m hm).tells⟩⟩

end Runs

section Sample

def autoBuilder : DeviceBuilder := { sampleBuilder .v34 with devType := .auto }

def successCode : Value := .object [(keyErrCode, Value.ofNat errSuccess)]

def plainValue : Value := .ofNat 12345678

def sampleCodec : Codec := KnownAnswers.json [successCode, plainValue]

def autoNext : World → Event → Option World :=
  next KnownAnswers.crates sampleCodec .release autoBuilder.device

def plainFrame : Bytes :=
  [0x00, 0x00, 0x55, 0xaa, 0x00, 0x00, 0x00, 0x00, 0x00, 0x00, 0x00, 0x08, 0x00, 0x00, 0x00, 0x14,
    0x00, 0x00, 0x00, 0x00] ++ utf8 "12345678" ++ [0xef, 0x74, 0x37, 0x6a, 0x00, 0x00, 0xaa, 0x55]

def plainStep : Event := .reader (.packet 0 ⟨plainFrame.tail, .silent⟩)

def forgedFrame : Bytes :=
  [0x00, 0x00, 0x55, 0xaa, 0x00, 0x00, 0x00, 0x00, 0x00, 0x00, 0x00, 0x08, 0x00, 0x00, 0x00, 0x1b,
    0x00, 0x00, 0x00, 0x00] ++ utf8 "\x7b\"errorCode\":0\x7d" ++
  [0x5a, 0x42, 0x83, 0xa7, 0x00, 0x00, 0xaa, 0x55]

def forgeStep : Event := .reader (.packet 0 ⟨forgedFrame.tail, .silent⟩)

def connectedSteps : List Event :=
  SessionLifecycle.negotiationSteps ++ [.task .go, .task .go, .task .go]

def onV34 (w : World) (e : Event) : Bool := decide (w.shared.version = .v34) && !setsDevType e

theorem onV34_iff {w : World} {e : Event} : onV34 w e = true ↔ OnV34 w e := by
  simp [onV34, OnV34]

def decodedPayload (w : World) (e : Event) : Option Bytes :=
  (frameRead .release w e).bind fun (packet, header) =>
    match ((decodePacket KnownAnswers.crates .release autoBuilder.device packet header).run
      w.shared).1 with
    | .ok d => some d.payload
    | .err _ | .panic => none

theorem plainValue_unobtrusive : Unobtrusive sampleCodec plainValue where
  distinct := fun _ h => by cases h
  errorCode := fun _ _ h => by cases h
  errorMsg := fun _ _ h => by cases h
  accepted := by decide +kernel

theorem second_forgery_refused :
    (∃ w w' m, run (guarded onV34 autoNext) autoBuilder.run connectedSteps = some w ∧
      autoNext w plainStep = some w' ∧ newMessages w w' = [m] ∧ TellsDevtype sampleCodec m) ∧
    ∃ w, run (guarded onV34 autoNext) autoBuilder.run (connectedSteps ++ [plainStep, plainStep])
        = some w ∧
      (harvest (forgeries KnownAnswers.crates .release autoBuilder.device) autoNext
        autoBuilder.run (connectedSteps ++ [plainStep, plainStep])).length = 1 ∧
      w.shared.devType = .device22 := by
  constructor
  · obtain ⟨w, hrun, hobserved⟩ : ∃ w, run (guarded onV34 autoNext) autoBuilder.run connectedSteps
          = some w ∧
        (onV34 w plainStep && forged KnownAnswers.crates .release autoBuilder.device w plainStep,
          decodedPayload w plainStep,
          (autoNext w plainStep).map fun w' => (newMessages w w').length)
          = (true, some (utf8 "12345678"), some 1) :=
      Option.map_eq_some_iff.mp (by decide +kernel)
    rw [Prod.mk.injEq, Prod.mk.injEq, Bool.and_eq_true] at hobserved
    obtain ⟨⟨hallowed, hforged⟩, hplain, hlength⟩ := hobserved
    obtain ⟨w', hstep, hone⟩ := Option.map_eq_some_iff.mp hlength
    obtain ⟨m, hnew⟩ := List.length_eq_one_iff.mp hone
    obtain ⟨-, hsteps, -⟩ := unauthentic_frame_at_most_once KnownAnswers.crates sampleCodec
      .release autoBuilder (execution_of_guarded_run (fun _ _ => onV34_iff.mp) hrun)
    obtain ⟨-, -, packet, header, d, t, hframe, hdecode, hdelivered⟩ :=
      (hsteps plainStep w' (onV34_iff.mp hallowed) hstep).2 hforged
    have hpayload : d.payload = utf8 "12345678" := by
      rw [decodedPayload, hframe, Option.bind_some] at hplain
      dsimp only at hplain
      rw [hdecode] at hplain
      exact Option.some.inj hplain
    have hvalue : originalPayload sampleCodec d = plainValue := by
      rw [originalPayload, hpayload]
      rfl
    refine ⟨w, w', m, hrun, hstep, hnew, (hdelivered m ?_).2 ?_⟩
    · rw [delivered, hnew]
      exact List.mem_cons_self
    · rw [hvalue]
      exact plainValue_unobtrusive
  · obtain ⟨w, hrun, hobserved⟩ : ∃ w, run (guarded onV34 autoNext) autoBuilder.run
          (connectedSteps ++ [plainStep, plainStep]) = some w ∧
        (harvest (forgeries KnownAnswers.crates .release autoBuilder.device) autoNext
          autoBuilder.run (connectedSteps ++ [plainStep, plainStep])).length = 1 :=
      Option.map_eq_some_iff.mp (by decide +kernel)
    obtain ⟨⟨-, hsettled⟩, -⟩ := unauthentic_frame_at_most_once KnownAnswers.crates sampleCodec
      .release autoBuilder (execution_of_guarded_run (fun _ _ => onV34_iff.mp) hrun)
    refine ⟨w, hrun, hobserved, hsettled ?_⟩
    intro hnone
    rw [show harvest _ autoNext _ _ = [] from hnone] at hobserved
    cases hobserved

/-- The message that tells of the device type takes its code from the frame. -/
theorem forged_success_delivered :
    ∃ w w', run (guarded onV34 autoNext) autoBuilder.run connectedSteps = some w ∧
      onV34 w forgeStep = true ∧ autoNext w forgeStep = some w' ∧
      forged KnownAnswers.crates .release autoBuilder.device w forgeStep = true ∧
      (newMessages w w').map TuyaMessage.payload
        = [utf8 "\x7b\"errorCode\":0,\"errorMsg\":\"Device22 Detected: Retry Command\"\x7d"] := by
  obtain ⟨w, hrun, hobserved⟩ : ∃ w, run (guarded onV34 autoNext) autoBuilder.run connectedSteps
        = some w ∧
      (onV34 w forgeStep, forged KnownAnswers.crates .release autoBuilder.device w forgeStep,
        (autoNext w forgeStep).map fun w' => (newMessages w w').map TuyaMessage.payload)
        = (true, true, some [
          utf8 "\x7b\"errorCode\":0,\"errorMsg\":\"Device22 Detected: Retry Command\"\x7d"]) :=
    Option.map_eq_some_iff.mp (by decide +kernel)
  rw [Prod.mk.injEq, Prod.mk.injEq] at hobserved
  obtain ⟨hallowed, hforged, htold⟩ := hobserved
  obtain ⟨w', hstep, hnew⟩ := Option.map_eq_some_iff.mp htold
  exact ⟨w, w', hrun, hallowed, hstep, hforged, hnew⟩

end Sample

end FrameAuthenticity
