import Rustuya.ConnectionTask
import Rustuya.FrameReencoding
import Rustuya.Scanner
import Rustuya.StreamFraming

/-!
# Discovery packets

What the scanner makes of a datagram. It does not know how a device encodes its packets, so it
tries: the datagram as a JSON text, as a frame under each of its keys and with each way to
look for a return code, as a ciphertext, and last for a JSON text inside it. The first JSON
value found decides.
-/
namespace DiscoveryPackets

open CheckedExecution ByteCodec Error Crypto Message Protocol Json FrameSafety FrameRoundTrip
open FrameReencoding Scanner
open ConnectionTask (field asStr)
open StreamFraming (IsPrefix decrypt_ecb_returns)

def udpKey33 : Key := ⟨utf8 "yG9shRKIBrIBUjc3", by decide⟩

def udpKey35 : Key := udpKey34

def versionFromStr (s : String) : Option Version :=
  if s = "Auto" ∨ s = "auto" ∨ s = "" then some .auto
  else if s = "3.1" then some .v31
  else if s = "3.2" then some .v32
  else if s = "3.3" then some .v33
  else if s = "3.4" then some .v34
  else if s = "3.5" then some .v35
  else none

/-- The first of three fields is the id, even if it is not a string. -/
def parseJson (now : Nat) (val : Value) : Option DiscoveryResult :=
  let id := (((field val "gwId").or (field val "devId")).or (field val "id")).bind asStr
  let ip := (field val "ip").bind asStr
  match id, ip with
  | some id, some ip =>
    some
      { id, ip
        version := ((field val "version").bind asStr).bind versionFromStr
        productKey := (field val "productKey").bind asStr
        discoveredAt := now }
  | _, _ => none

section ParsePacket

variable (C : Crates) (S : Codec) (build : Build)

def decryptJson (data : Bytes) (key : Key) : Result (Option Value) :=
  match TuyaCipher.new key.val with
  | .ok cipher =>
    match cipher.decrypt C data false none none with
    | .ok decrypted => .ok (S.fromSlice decrypted)
    | .err _ => .ok none
    | .panic => .panic
  | .err _ => .ok none
  | .panic => .panic

def keysToTry : Option Key → List Key
  | some k => [k]
  | none => [udpKey33, udpKey34, udpKey35]

def payloadJson (key : Option Key) (payload : Bytes) : Result (Option Value) :=
  match S.fromSlice payload with
  | some val => .ok (some val)
  | none => Outcome.firstSome (decryptJson C S payload) (keysToTry key)

def attempt (data : Bytes) : Option Key × Option Bool → Result (Option Value)
  | (key, noRetcode) =>
    match unpackMessage C build data (key.map Subtype.val) none noRetcode with
    | .ok msg => if msg.payload.isEmpty then .ok none else payloadJson C S key msg.payload
    | .err _ => .ok none
    | .panic => .panic

def tries : List (Option Key × Option Bool) :=
  [(some udpKey35, some true), (some udpKey35, some false), (some udpKey35, none),
    (some udpKey34, some true), (some udpKey34, some false), (some udpKey34, none),
    (some udpKey33, some true), (some udpKey33, some false), (some udpKey33, none),
    (none, some true), (none, some false), (none, none)]

def fromBrace (data : Bytes) : Option Value :=
  (data.findIdx? (· == 0x7b)).bind fun pos => S.fromSlice (data.drop pos)

/-- The first value found; the source hands it to `parse_json` at each place it is found. -/
def findJson (tries : List (Option Key × Option Bool)) (data : Bytes) : Result (Option Value) :=
  match S.fromSlice data with
  | some val => .ok (some val)
  | none => do
    match ← Outcome.firstSome (attempt C S build data) tries with
    | some val => .ok (some val)
    | none =>
      match ← Outcome.firstSome (decryptJson C S data) [udpKey33, udpKey34] with
      | some val => .ok (some val)
      | none => .ok (fromBrace S data)

def parsePacketWith (tries : List (Option Key × Option Bool)) (now : Nat) (data : Bytes) :
    Result (Option DiscoveryResult) := do
  let found ← findJson C S build tries data
  .ok (found.bind (parseJson now))

def parsePacket : Nat → Bytes → Result (Option DiscoveryResult) :=
  parsePacketWith C S build tries

end ParsePacket

section Redundancy

variable (C : Crates) (S : Codec) (build : Build)

/-- The attempts that are not repeated. -/
def sixTries : List (Option Key × Option Bool) :=
  [(some udpKey34, some true), (some udpKey34, some false), (some udpKey33, some true),
    (some udpKey33, some false), (none, some true), (none, some false)]

theorem attempt_unspecified (data : Bytes) (key : Option Key) :
    ∃ no, attempt C S build data (key, some no) = attempt C S build data (key, none) := by
  rcases (sliced_unpackMessage C build data (key.map Subtype.val) none).unspecified with h | h
  · refine ⟨true, ?_⟩
    simp only [attempt, h]
  · refine ⟨false, ?_⟩
    simp only [attempt, h]

def decided (key : Option Key) : List (Option Key × Option Bool) :=
  [(key, some true), (key, some false)]

theorem firstSome_undecided (data : Bytes) (key : Option Key)
    (before after : List (Option Key × Option Bool)) :
    Outcome.firstSome (attempt C S build data) (before ++ (decided key ++ (key, none) :: after))
      = Outcome.firstSome (attempt C S build data) (before ++ (decided key ++ after)) := by
  obtain ⟨no, hno⟩ := attempt_unspecified C S build data key
  have hmem : (key, some no) ∈ before ++ decided key := by
    cases no <;> simp [decided]
  rw [← List.append_assoc, ← List.append_assoc]
  exact Outcome.firstSome_repeated ⟨_, hmem, hno⟩

theorem firstSome_decided_twice (data : Bytes) (key : Option Key)
    (after : List (Option Key × Option Bool)) :
    Outcome.firstSome (attempt C S build data) (decided key ++ (decided key ++ after))
      = Outcome.firstSome (attempt C S build data) (decided key ++ after) := by
  have hmem : ∀ no, (key, some no) ∈ decided key := by
    intro no
    cases no <;> simp [decided]
  calc Outcome.firstSome (attempt C S build data) (decided key ++ (decided key ++ after))
      = Outcome.firstSome (attempt C S build data) (decided key ++ (key, some false) :: after) :=
        Outcome.firstSome_repeated ⟨_, hmem true, rfl⟩
    _ = Outcome.firstSome (attempt C S build data) (decided key ++ after) :=
        Outcome.firstSome_repeated ⟨_, hmem false, rfl⟩

theorem firstSome_tries (data : Bytes) :
    Outcome.firstSome (attempt C S build data) tries
      = Outcome.firstSome (attempt C S build data) sixTries := by
  let f := Outcome.firstSome (attempt C S build data)
  calc f tries
      = f ([] ++ (decided (some udpKey35) ++ (some udpKey35, none) ::
          (decided (some udpKey34) ++ (some udpKey34, none) :: (decided (some udpKey33) ++
            (some udpKey33, none) :: (decided none ++ [(none, none)]))))) := rfl
    _ = f (decided (some udpKey34) ++ (decided (some udpKey34) ++ (some udpKey34, none) ::
          (decided (some udpKey33) ++ (some udpKey33, none) ::
            (decided none ++ [(none, none)])))) := firstSome_undecided C S build data _ _ _
    _ = f (decided (some udpKey34) ++ (decided (some udpKey34) ++ (decided (some udpKey33) ++
          (some udpKey33, none) :: (decided none ++ [(none, none)])))) :=
        firstSome_undecided C S build data _ _ _
    _ = f (decided (some udpKey34) ++ (decided (some udpKey33) ++
          (some udpKey33, none) :: (decided none ++ [(none, none)]))) :=
        firstSome_decided_twice C S build data _ _
    _ = f (decided (some udpKey34) ++ (decided (some udpKey33) ++
          (decided none ++ [(none, none)]))) := firstSome_undecided C S build data _ _ _
    _ = f ((decided (some udpKey34) ++ decided (some udpKey33)) ++
          (decided none ++ (none, none) :: [])) := rfl
    _ = f sixTries := firstSome_undecided C S build data _ _ _

/-- For every datagram, key and build: the three ways to look for a return code give the same
error, or the same frame up to where its payload begins, and the unspecified one gives what
one of the two others gives. So the scanner finds in six attempts what it finds in twelve. -/
theorem retcode_mode_only_moves_boundary :
    (∀ (data : Bytes) (hmacKey : Option Bytes) (mode mode' : Option Bool),
      SameFrame (unpackMessage C build data hmacKey none mode)
        (unpackMessage C build data hmacKey none mode')) ∧
    (∀ (data : Bytes) (hmacKey : Option Bytes),
      unpackMessage C build data hmacKey none none
          = unpackMessage C build data hmacKey none (some true) ∨
        unpackMessage C build data hmacKey none none
          = unpackMessage C build data hmacKey none (some false)) ∧
    ∀ (now : Nat) (data : Bytes),
      parsePacketWith C S build sixTries now data = parsePacket C S build now data := by
  refine ⟨?_, ?_, ?_⟩
  · intro data hmacKey
    exact (sliced_unpackMessage C build data hmacKey none).sameFrame
  · intro data hmacKey
    exact (sliced_unpackMessage C build data hmacKey none).unspecified
  · intro now data
    simp only [parsePacket, parsePacketWith, findJson, firstSome_tries]

end Redundancy

section Encodings

structure FrameInfo where
  seqno : UInt32
  cmd : UInt32
  retcode : Option UInt32

/-- How a device can encode its packet: as it is, in a frame under a CRC in clear or
encrypted, in a frame under an HMAC and encrypted, in an authenticated frame, or encrypted
and without a frame. -/
inductive Encoding where
  | plain
  | crcClear (info : FrameInfo)
  | crcSealed (info : FrameInfo) (key : Key)
  | hmacSealed (info : FrameInfo)
  | gcmClear (info : FrameInfo) (iv : U8Array 12)
  | sealed (key : Key)

def Encoding.retcode : Encoding → Option UInt32
  | .plain | .sealed _ => none
  | .crcClear info | .crcSealed info _ | .hmacSealed info | .gcmClear info _ => info.retcode

def Encoding.sealedBy : Encoding → Option Key
  | .plain | .crcClear _ | .gcmClear _ _ => none
  | .crcSealed _ key | .sealed key => some key
  | .hmacSealed _ => some udpKey34

def Encoding.underCrc : Encoding → Bool
  | .crcClear _ | .crcSealed _ _ => true
  | .plain | .hmacSealed _ | .gcmClear _ _ | .sealed _ => false

section Bytes

variable (C : Crates) (text : Bytes)

def sealText (key : Key) : Bytes := ecb (C.aesEncryptBlock key) (pad text)

def Encoding.payload (e : Encoding) : Bytes :=
  match e.sealedBy with
  | some key => sealText C text key
  | none => text

def Encoding.body (e : Encoding) : Bytes := retcodeBytes e.retcode ++ e.payload C text

def Framed55aa (build : Build) (hmacKey : Option Bytes) (info : FrameInfo) (body data : Bytes) :
    Prop :=
  body.length + 16 + endLen hmacKey < 2 ^ 32 ∧
    pack55aa C build ⟨info.seqno, info.cmd, none, body, prefix55aa, none⟩ hmacKey = .ok data

def Encoding.IsDatagram (build : Build) (e : Encoding) (data : Bytes) : Prop :=
  match e with
  | .plain => data = text
  | .crcClear info => Framed55aa C build none info (e.body C text) data
  | .crcSealed info key =>
    key ∈ [udpKey33, udpKey34] ∧ Framed55aa C build none info (e.body C text) data
  | .hmacSealed info => Framed55aa C build (some udpKey34.val) info (e.body C text) data
  | .gcmClear info iv =>
    (e.body C text).length + 50 < 2 ^ 32 ∧
      pack6699 C iv ⟨info.seqno, info.cmd, info.retcode, text, prefix6699, some iv.val⟩
        (some udpKey35.val) = .ok data
  | .sealed key =>
    key ∈ [udpKey33, udpKey34] ∧ data = e.payload C text ∧ ¬ IsPrefix (readU32 data)

/-- What is assumed of a datagram: no HMAC of a key of the scanner is right for a frame under
a CRC, bytes that were not encrypted under a key are not decrypted under it, and neither a
ciphertext nor a return code before one is a JSON text. -/
structure Distinguishable (S : Codec) (e : Encoding) (data : Bytes) : Prop where
  hmac : e.underCrc = true → ∀ k ∈ [udpKey33, udpKey34],
    (C.hmacSha256 k.val (data.take (data.length - 36))).val
      ≠ (data.drop (data.length - 36)).take 32
  ecb : ∀ k ∈ [udpKey33, udpKey34], e.sealedBy ≠ some k →
    ∀ q ∈ [e.payload C text, e.body C text], ∀ p,
      (TuyaCipher.mk k).decrypt C q false none none ≠ .ok p
  json : e.sealedBy.isSome = true →
    S.fromSlice (e.payload C text) = none ∧ S.fromSlice (e.body C text) = none

end Bytes

section Payloads

variable {C : Crates} {S : Codec} {text data : Bytes} {e : Encoding} {fields : Map}

theorem new_key (key : Key) : TuyaCipher.new key.val = .ok ⟨key⟩ := dif_pos key.property

theorem decryptJson_sealed (hB : C.BlockLaw) (key : Key) :
    decryptJson C S (sealText C text key) key = .ok (S.fromSlice text) := by
  have hopen := decrypt_encrypt_padded ⟨key⟩ hB text
  rw [decryptJson, new_key]
  dsimp only
  rw [sealText, hopen]

theorem decryptJson_fails {key : Key}
    (h : ∀ p, (TuyaCipher.mk key).decrypt C data false none none ≠ .ok p) :
    decryptJson C S data key = .ok none := by
  have hret := decrypt_ecb_returns (C := C) ⟨key⟩ data none
  rw [decryptJson, new_key]
  dsimp only
  cases hd : (TuyaCipher.mk key).decrypt C data false none none with
  | ok p => exact absurd hd (h p)
  | err err => rfl
  | panic => exact absurd hd hret.returns

theorem firstSome_keys (hB : C.BlockLaw) (hJ : S.fromSlice text = some (.object fields))
    (hd : Distinguishable C text S e data) {k : Key} (hby : e.sealedBy = some k)
    (hk : k ∈ [udpKey33, udpKey34]) (rest : List Key) :
    Outcome.firstSome (decryptJson C S (e.payload C text)) (udpKey33 :: udpKey34 :: rest)
      = .ok (some (.object fields)) := by
  have hcipher : e.payload C text = sealText C text k := by simp only [Encoding.payload, hby]
  have hfound : decryptJson C S (e.payload C text) k = .ok (some (.object fields)) := by
    rw [hcipher, decryptJson_sealed hB, hJ]
  rcases List.mem_cons.mp hk with rfl | hk
  · exact Outcome.firstSome_found hfound _
  · obtain rfl := List.mem_singleton.mp hk
    have hother : decryptJson C S (e.payload C text) udpKey33 = .ok none := by
      refine decryptJson_fails (hd.ecb udpKey33 (by simp) ?_ _ (by simp))
      rw [hby]
      decide
    exact (Outcome.firstSome_next hother _).trans (Outcome.firstSome_found hfound _)

theorem payloadJson_payload (hB : C.BlockLaw) (hJ : S.fromSlice text = some (.object fields))
    (hd : Distinguishable C text S e data)
    (hsealed : ∀ k, e.sealedBy = some k → k ∈ [udpKey33, udpKey34]) {key : Option Key}
    (hkey : ∀ k, e.sealedBy = some k → key = none ∨ key = some k) :
    payloadJson C S key (e.payload C text) = .ok (some (.object fields)) := by
  cases hby : e.sealedBy with
  | none =>
    have hclear : e.payload C text = text := by simp only [Encoding.payload, hby]
    rw [payloadJson, hclear, hJ]
  | some k =>
    rw [payloadJson, (hd.json (by rw [hby]; rfl)).1]
    rcases hkey k hby with rfl | rfl
    · exact firstSome_keys hB hJ hd hby (hsealed k hby) [udpKey35]
    · have hcipher : e.payload C text = sealText C text k := by
        simp only [Encoding.payload, hby]
      apply Outcome.firstSome_found
      rw [hcipher, decryptJson_sealed hB, hJ]

theorem length_sealText (C : Crates) (text : Bytes) (key : Key) :
    (sealText C text key).length = (text.length / 16 + 1) * 16 :=
  length_encrypt_padded ⟨key⟩ text

theorem payloadJson_body (hS : S.Reads) (hJ : S.fromSlice text = some (.object fields))
    (hd : Distinguishable C text S e data) (hcode : e.retcode.isSome = true) {key : Option Key}
    (hkey : ∀ k ∈ keysToTry key, k ∈ [udpKey33, udpKey34]) :
    payloadJson C S key (e.body C text) = .ok (some (.object fields)) ∨
      payloadJson C S key (e.body C text) = .ok none := by
  rw [payloadJson]
  cases hbody : S.fromSlice (e.body C text) with
  | some v =>
    -- Only a payload in clear can be a JSON text, and only with blanks before it.
    cases hby : e.sealedBy with
    | some k =>
      rw [(hd.json (by rw [hby]; rfl)).2] at hbody
      cases hbody
    | none =>
      have hclear : e.body C text = retcodeBytes e.retcode ++ text := by
        simp only [Encoding.body, Encoding.payload, hby]
      rw [hclear] at hbody
      obtain rfl := hS.blank text fields _ v hJ hbody
      exact .inl rfl
  | none =>
    refine .inr (Outcome.firstSome_none ?_)
    intro k hk
    apply decryptJson_fails
    by_cases hby : e.sealedBy = some k
    · -- Four bytes more than whole blocks.
      have hlength : (e.body C text).length % 16 ≠ 0 := by
        obtain ⟨rc, hrc⟩ := Option.isSome_iff_exists.mp hcode
        have hpayload : e.payload C text = sealText C text k := by
          simp only [Encoding.payload, hby]
        have hblocks := length_sealText C text k
        rw [Encoding.body, hrc, hpayload, List.length_append, hblocks]
        change (4 + _) % 16 ≠ 0
        omega
      intro p hp
      rw [decrypt_partial_block ⟨k⟩ hlength] at hp
      cases hp
    · exact hd.ecb k (hkey k hk) hby _ (by simp)

end Payloads

section Frames

variable {C : Crates} {S : Codec} {build : Build} {text data : Bytes} {e : Encoding}
  {fields : Map}

theorem framed55aa_eq {hmacKey : Option Bytes} {info : FrameInfo} {body : Bytes}
    (h : Framed55aa C build hmacKey info body data) :
    let head := header55aa info.seqno info.cmd (UInt32.ofNat (body.length + endLen hmacKey)) ++ body
    data = head ++ (footer55aa C hmacKey head ++ writeU32 suffix55aa) := by
  have hpack := pack55aa_eq C build info.seqno info.cmd none h.1
  rw [h.2] at hpack
  exact Outcome.ok.inj hpack

theorem unpack55aa_other_key {header : TuyaHeader} {k : Key} (h36 : 36 ≤ data.length)
    (htotal : header.totalLength.toNat = data.length)
    (hmac : (C.hmacSha256 k.val (data.take (data.length - 36))).val
      ≠ (data.drop (data.length - 36)).take 32) (mode : Option Bool) :
    ∃ err, unpack55aa C build data (some k.val) header mode = .err err := by
  have hend : header.totalLength.toNat = (data.length - 36) + endLen (some k.val) := by
    rw [htotal]
    change _ = _ + 36
    omega
  by_cases hroom : data.length - 36 < 16
  · exact ⟨_, unpack55aa_short C build hend hroom mode⟩
  · have hfooter : (slice (data.drop (data.length - 36)) 0 32 : Result Bytes)
        = .ok ((data.drop (data.length - 36)).take 32) := by
      have hmax : isizeMax = 2 ^ 63 - 1 := rfl
      rw [slice_of_le (by omega) (by rw [List.length_drop]; omega) (by omega), List.drop_zero]
    refine ⟨.hmacMismatch, ?_⟩
    rw [unpack55aa_eq C build hend (by omega) htotal.le]
    dsimp only
    rw [htotal, List.take_length, checkFooter, hfooter, Outcome.ok_bind, if_pos hmac,
      Outcome.err_bind]

/-- No key opens a frame under a CRC: its payload is long enough for the decoder to look for
an HMAC at all. -/
theorem unpack_other_key {info : FrameInfo} {body : Bytes}
    (h : Framed55aa C build none info body data) (h12 : 12 ≤ body.length) {k : Key}
    (hmac : (C.hmacSha256 k.val (data.take (data.length - 36))).val
      ≠ (data.drop (data.length - 36)).take 32) (mode : Option Bool) :
    ∃ err, unpackMessage C build data (some k.val) none mode = .err err := by
  have hfit : body.length + 16 + 8 < 2 ^ 32 := h.1
  set len := UInt32.ofNat (body.length + endLen none) with hlen
  have hn : len.toNat = body.length + 8 := by
    rw [hlen, UInt32.toNat_ofNat', Nat.mod_eq_of_lt (by change body.length + 8 < _; omega)]
    rfl
  have hdata := framed55aa_eq h
  dsimp only at hdata
  rw [← hlen, List.append_assoc] at hdata
  have hlength : data.length = 16 + (body.length + 8) := by
    rw [hdata]
    simp [footer55aa]
  obtain ⟨h16, h55, -, -, hfield⟩ := fields55aa info.seqno info.cmd len
    (body ++ (footer55aa C none (header55aa info.seqno info.cmd len ++ body)
      ++ writeU32 suffix55aa))
  rw [← hdata] at h16 h55 hfield
  rw [unpackMessage_55aa C build h16 h55 (by rw [hfield, hn]; omega), hfield,
    if_neg (by rw [hn]; omega)]
  apply unpack55aa_other_key (by omega) ?_ hmac
  change (len + 16).toNat = data.length
  rw [toNat_add_16 (by omega), hn]
  omega

theorem attempt_other_key {info : FrameInfo} {body : Bytes}
    (h : Framed55aa C build none info body data) (h12 : 12 ≤ body.length) {k : Key}
    (hmac : (C.hmacSha256 k.val (data.take (data.length - 36))).val
      ≠ (data.drop (data.length - 36)).take 32) (mode : Option Bool) :
    attempt C S build data (some k, mode) = .ok none := by
  obtain ⟨err, herr⟩ := unpack_other_key h h12 hmac mode
  simp only [attempt, Option.map_some, herr]

def found (C : Crates) (S : Codec) (key : Option Key) (payload : Bytes) : Result (Option Value) :=
  if payload.isEmpty then .ok none else payloadJson C S key payload

theorem attempt_55aa (key : Option Key) {info : FrameInfo} {body : Bytes}
    (h : Framed55aa C build (key.map Subtype.val) info body data) (no : Bool) :
    attempt C S build data (key, some no) = found C S key (splitRetcode (!no) body).2 := by
  have hread := unpack_frame55aa C build info.seqno info.cmd [] h.1 (some no)
  dsimp only at hread
  rw [List.append_nil, ← framed55aa_eq h] at hread
  simp only [attempt, hread, sniff55aa]
  rfl

theorem attempt_6699 (hG : C.GcmLaw) {key : Key} {info : FrameInfo} {iv randomIv : U8Array 12}
    (hfit : (retcodeBytes info.retcode ++ text).length + 50 < 2 ^ 32)
    (h : pack6699 C randomIv ⟨info.seqno, info.cmd, info.retcode, text, prefix6699, some iv.val⟩
      (some key.val) = .ok data) (no : Bool) :
    attempt C S build data (some key, some no)
      = found C S (some key) (splitRetcode (!no) (retcodeBytes info.retcode ++ text)).2 := by
  obtain ⟨c, hc, hpack, hdec⟩ := pack6699_eq C hG info.seqno info.cmd key iv randomIv hfit
  have hdata := Outcome.ok.inj (h.symm.trans hpack)
  have hread := unpack_frame6699 C build hc hfit rfl hdec (some no) []
  rw [List.append_nil, ← hdata] at hread
  simp only [attempt, Option.map_some, hread, sniff6699]
  rfl

end Frames

section Decoding

variable {C : Crates} {S : Codec} {build : Build} {text data : Bytes} {e : Encoding}
  {fields : Map}

theorem Encoding.IsDatagram.sealedBy_mem (he : e.IsDatagram C text build data) {k : Key}
    (hk : e.sealedBy = some k) : k ∈ [udpKey33, udpKey34] := by
  cases e with
  | plain | crcClear | gcmClear => cases hk
  | crcSealed | sealed =>
    cases hk
    exact he.1
  | hmacSealed =>
    cases hk
    simp

theorem length_text (hS : S.Reads) (hJ : S.fromSlice text = some (.object fields))
    {id ip : Value} (hid : fields.get "gwId" = some id) (hip : fields.get "ip" = some ip) :
    16 < text.length := by
  have hkeys := hS.keys text fields "gwId" "ip" hJ (by decide) (by rw [hid]; rfl) (by rw [hip]; rfl)
  exact hkeys

theorem length_payload (h : 16 < text.length) (e : Encoding) :
    16 < (e.payload C text).length := by
  rw [Encoding.payload]
  split
  · rw [length_sealText]
    omega
  · exact h

/-- Of the two ways to read an accepted frame, the one that knows whether there is a return
code finds the object, and the other one finds the object or nothing. -/
theorem firstSome_decided (key : Option Key) (hB : C.BlockLaw) (hS : S.Reads)
    (hJ : S.fromSlice text = some (.object fields)) (hlong : 16 < text.length)
    (he : e.IsDatagram C text build data) (hd : Distinguishable C text S e data)
    (hkeys : ∀ k ∈ keysToTry key, k ∈ [udpKey33, udpKey34])
    (hkey : ∀ k, e.sealedBy = some k → key = none ∨ key = some k)
    (hread : ∀ no, attempt C S build data (key, some no)
      = found C S key (splitRetcode (!no) (e.body C text)).2)
    (rest : List (Option Key × Option Bool)) :
    Outcome.firstSome (attempt C S build data) (decided key ++ rest)
      = .ok (some (.object fields)) := by
  have hpos := length_payload (C := C) hlong e
  have hpayload : found C S key (e.payload C text) = .ok (some (.object fields)) := by
    rw [found, if_neg (by rw [List.isEmpty_iff_length_eq_zero]; omega)]
    exact payloadJson_payload hB hJ hd (fun k => he.sealedBy_mem) hkey
  have hfirst : attempt C S build data (key, some true) = found C S key (e.body C text) :=
    hread true
  cases hcode : e.retcode with
  | none =>
    have hbody : e.body C text = e.payload C text := by rw [Encoding.body, hcode]; rfl
    rw [hbody, hpayload] at hfirst
    exact Outcome.firstSome_found hfirst _
  | some rc =>
    have hbody : e.body C text = writeU32 rc ++ e.payload C text := by
      rw [Encoding.body, hcode]
      rfl
    have hsecond : attempt C S build data (key, some false) = .ok (some (.object fields)) := by
      rw [hread false, hbody, ← hpayload]
      rfl
    have hcalled : found C S key (e.body C text) = payloadJson C S key (e.body C text) := by
      rw [found, if_neg (by rw [hbody]; exact Bool.false_ne_true)]
    rw [hcalled] at hfirst
    rcases payloadJson_body hS hJ hd (by rw [hcode]; rfl) hkeys with h | h
    · exact Outcome.firstSome_found (hfirst.trans h) _
    · exact (Outcome.firstSome_next (hfirst.trans h) _).trans (Outcome.firstSome_found hsecond _)

theorem fromSlice_framed {hmacKey : Option Bytes} {info : FrameInfo} {body : Bytes} (hS : S.Reads)
    (h : Framed55aa C build hmacKey info body data) : S.fromSlice data = none := by
  rw [framed55aa_eq h]
  exact hS.opening _

theorem first_keys : ∀ a ∈ tries.take 9, ∃ k ∈ [udpKey33, udpKey34], a.1 = some k := by decide

theorem keysToTry_mem : (∀ k ∈ keysToTry none, k ∈ [udpKey33, udpKey34]) ∧
    ∀ k ∈ keysToTry (some udpKey35), k ∈ [udpKey33, udpKey34] := by decide

theorem firstSome_underCrc {info : FrameInfo} (hB : C.BlockLaw) (hS : S.Reads)
    (hJ : S.fromSlice text = some (.object fields)) (hlong : 16 < text.length)
    (he : e.IsDatagram C text build data) (hd : Distinguishable C text S e data)
    (hcrc : e.underCrc = true) (hframe : Framed55aa C build none info (e.body C text) data) :
    Outcome.firstSome (attempt C S build data) tries = .ok (some (.object fields)) := by
  have hpos := length_payload (C := C) hlong e
  have h12 : 12 ≤ (e.body C text).length := by
    rw [Encoding.body, List.length_append]
    omega
  have hkeyed : ∀ a ∈ tries.take 9, attempt C S build data a = .ok none := by
    rintro ⟨key, mode⟩ ha
    have hkey : ∃ k ∈ [udpKey33, udpKey34], key = some k := first_keys _ ha
    obtain ⟨k, hk, rfl⟩ := hkey
    exact attempt_other_key hframe h12 (hd.hmac hcrc k hk) mode
  have htries : tries = tries.take 9 ++ (decided none ++ [(none, none)]) := rfl
  rw [htries, Outcome.firstSome_skip hkeyed]
  apply firstSome_decided none hB hS hJ hlong he hd keysToTry_mem.1
  · intro k _
    exact .inl rfl
  · exact attempt_55aa none hframe

theorem firstSome_no_frame (h16 : 16 ≤ data.length) (hother : ¬ IsPrefix (readU32 data)) :
    Outcome.firstSome (attempt C S build data) tries = .ok none := by
  apply Outcome.firstSome_none
  rintro ⟨key, mode⟩ -
  have hheader := parseHeader_other build h16 (fun h => hother (.inl h)) (fun h => hother (.inr h))
  rw [attempt, unpackMessage_bind, hheader, Outcome.err_bind]

theorem findJson_datagram (hB : C.BlockLaw) (hG : C.GcmLaw) (hS : S.Reads)
    (hJ : S.fromSlice text = some (.object fields)) (hlong : 16 < text.length)
    (he : e.IsDatagram C text build data) (hd : Distinguishable C text S e data) :
    findJson C S build tries data = .ok (some (.object fields)) := by
  -- A frame is no JSON text, and what the attempts find is the result.
  have hframe : S.fromSlice data = none →
      Outcome.firstSome (attempt C S build data) tries = .ok (some (.object fields)) →
      findJson C S build tries data = .ok (some (.object fields)) := by
    intro hnone hfound
    rw [findJson, hnone]
    dsimp only
    rw [hfound, Outcome.ok_bind]
  cases e with
  | plain =>
    obtain rfl : data = text := he
    rw [findJson, hJ]
  | crcClear info =>
    exact hframe (fromSlice_framed hS he) (firstSome_underCrc hB hS hJ hlong he hd rfl he)
  | crcSealed info key =>
    exact hframe (fromSlice_framed hS he.2) (firstSome_underCrc hB hS hJ hlong he hd rfl he.2)
  | hmacSealed info =>
    refine hframe (fromSlice_framed hS he) ?_
    refine firstSome_decided (some udpKey35) hB hS hJ hlong he hd keysToTry_mem.2 ?_ ?_ _
    · rintro k hk
      cases hk
      exact .inr rfl
    · exact attempt_55aa (some udpKey35) he
  | gcmClear info iv =>
    refine hframe ?_ ?_
    · obtain ⟨c, -, hpack, -⟩ := pack6699_eq C hG info.seqno info.cmd udpKey35 iv iv he.1
      obtain rfl := Outcome.ok.inj (he.2.symm.trans hpack)
      exact hS.opening _
    · refine firstSome_decided (some udpKey35) hB hS hJ hlong he hd keysToTry_mem.2 ?_ ?_ _
      · rintro k hk
        cases hk
      · exact attempt_6699 hG he.1 he.2
  | sealed key =>
    obtain ⟨hkey, hdata, hother⟩ := he
    have hpos := length_payload (C := C) hlong (.sealed key)
    have hkeys := firstSome_keys hB hJ hd (k := key) rfl hkey []
    have htext := (hd.json rfl).1
    rw [← hdata] at hpos hkeys htext
    rw [findJson, htext]
    dsimp only
    rw [firstSome_no_frame (by omega) hother, Outcome.ok_bind]
    dsimp only
    rw [hkeys, Outcome.ok_bind]

/-- Every object with an id and an address, in every encoding and with every return code or
none, is decoded to the device it describes. -/
theorem parse_packet_decodes (hB : C.BlockLaw) (hG : C.GcmLaw) (hS : S.Reads) (build : Build)
    (now : Nat) {fields : Map} {id ip : String} (hJ : S.fromSlice text = some (.object fields))
    (hid : fields.get "gwId" = some (.string id)) (hip : fields.get "ip" = some (.string ip))
    (e : Encoding) (he : e.IsDatagram C text build data)
    (hd : Distinguishable C text S e data) :
    parsePacket C S build now data = .ok (some
      { id, ip
        version := ((fields.get "version").bind asStr).bind versionFromStr
        productKey := (fields.get "productKey").bind asStr
        discoveredAt := now }) := by
  have hlong := length_text hS hJ hid hip
  rw [parsePacket, parsePacketWith, findJson_datagram hB hG hS hJ hlong he hd, Outcome.ok_bind,
    Option.bind_some]
  simp only [parseJson, field, hid, hip, Option.some_or, Option.bind_some, asStr]

end Decoding

section Sample

open KnownAnswers (block exchange)

def sampleFields : Map :=
  [("gwId", .string "bf0123"), ("ip", .string "10.0.0.7"), ("version", .string "3.3")]

def sampleText : Bytes := KnownAnswers.render (.object sampleFields)

def sampleCodec : Codec where
  toVec := KnownAnswers.render
  fromSlice text := if text = sampleText then some (.object sampleFields) else none

theorem sampleCodec_fromSlice (text : Bytes) : sampleCodec.fromSlice text
    = if text = sampleText then some (.object sampleFields) else none := rfl

theorem sampleCodec_some {text : Bytes} {v : Value} (h : sampleCodec.fromSlice text = some v) :
    text = sampleText ∧ v = .object sampleFields := by
  rw [sampleCodec_fromSlice] at h
  obtain ⟨htext, hv⟩ := Option.ite_none_right_eq_some.mp h
  exact ⟨htext, (Option.some.inj hv).symm⟩

theorem sampleFields_keys {key : String} (h : (sampleFields.get key).isSome) :
    key.utf8ByteSize ≤ 7 := by
  obtain ⟨kv, hmem, hkey⟩ := List.lookup_isSome_iff.mp h
  obtain rfl := eq_of_beq hkey
  have hall : ∀ kv ∈ sampleFields, kv.1.utf8ByteSize ≤ 7 := by decide
  exact hall kv hmem

theorem sampleCodec_reads : sampleCodec.Reads where
  opening rest := by
    cases h : sampleCodec.fromSlice (0 :: rest) with
    | none => rfl
    | some v =>
      have hhead : (0 : UInt8) = 0x7b := congrArg (List.headD · 0) (sampleCodec_some h).1
      exact absurd hhead (by decide)
  keys text fields k l h _ hk hl := by
    obtain ⟨rfl, hfields⟩ := sampleCodec_some h
    cases hfields
    have hlength : sampleText.length = 49 := by decide +kernel
    have hk := sampleFields_keys hk
    have hl := sampleFields_keys hl
    omega
  blank text fields before v h hv := (sampleCodec_some hv).2.trans (sampleCodec_some h).2.symm

/-- The blocks of the text and their encryption under the key of version 3.3. -/
def scannerAesTable : List (U8Array 16 × U8Array 16) := [
  (block 0x7b2267774964223a2262663031323322, block 0x7297cc2c80f2fa0bc82145260d6ed91e),
  (block 0x2c226970223a2231302e302e302e3722, block 0xfd695f6590a8d66257be0f5003e30ad1),
  (block 0x2c2276657273696f6e223a22332e3322, block 0x397ff495a754c00c10f71f2b15406e3a),
  (block 0x7d0f0f0f0f0f0f0f0f0f0f0f0f0f0f0f, block 0xe546e66d456a2c91c1a2191ab92bb7de)]

def scannerCrates : Crates :=
  { KnownAnswers.crates with
    aesEncryptBlock := fun key =>
      if key = udpKey33 then exchange scannerAesTable else KnownAnswers.aesPerm key
    aesDecryptBlock := fun key =>
      if key = udpKey33 then (exchange scannerAesTable).symm
      else (KnownAnswers.aesPerm key).symm }

theorem scannerCrates_blockLaw : scannerCrates.BlockLaw := by
  intro key b
  by_cases hkey : key = udpKey33
  · simp [scannerCrates, hkey]
  · simp [scannerCrates, hkey]

def sampleEncoding : Encoding := .crcSealed ⟨0, 19, some 0⟩ udpKey33

def sampleDatagram : Bytes :=
  let head := header55aa 0 19 76 ++ sampleEncoding.body scannerCrates sampleText
  head ++ (footer55aa scannerCrates none head ++ writeU32 suffix55aa)

theorem sampleDatagram_encoded :
    sampleEncoding.IsDatagram scannerCrates sampleText .release sampleDatagram := by
  have hbody : (sampleEncoding.body scannerCrates sampleText).length = 68 := by decide +kernel
  have hfit : (sampleEncoding.body scannerCrates sampleText).length + 16 + endLen none
      < 2 ^ 32 := by
    rw [hbody]
    decide
  have hpack := pack55aa_eq scannerCrates .release 0 19 none hfit
  rw [hbody] at hpack
  exact ⟨by decide, hfit, hpack⟩

theorem sampleDatagram_distinguishable :
    Distinguishable scannerCrates sampleText sampleCodec sampleEncoding sampleDatagram where
  hmac _ := by decide +kernel
  ecb k hk hne q hq p hp := by
    have hk : k = udpKey34 := by
      rcases List.mem_cons.mp hk with rfl | hk
      · exact absurd rfl hne
      · exact List.mem_singleton.mp hk
    have hfails : ∀ q ∈ [sampleEncoding.payload scannerCrates sampleText,
        sampleEncoding.body scannerCrates sampleText],
        (TuyaCipher.mk udpKey34).decrypt scannerCrates q false none none
          = .err .decryptionFailed := by decide +kernel
    rw [hk, hfails q hq] at hp
    cases hp
  json _ := by
    rw [sampleCodec_fromSlice, sampleCodec_fromSlice, if_neg (by decide +kernel),
      if_neg (by decide +kernel)]
    exact ⟨rfl, rfl⟩

theorem sealed_packet_decoded :
    parsePacket scannerCrates sampleCodec .release 7 sampleDatagram = .ok (some
      { id := "bf0123", ip := "10.0.0.7", version := some .v33, productKey := none,
        discoveredAt := 7 }) := by
  have htext : sampleCodec.fromSlice sampleText = some (.object sampleFields) := by
    rw [sampleCodec_fromSlice, if_pos rfl]
  exact parse_packet_decodes scannerCrates_blockLaw KnownAnswers.gcmLaw sampleCodec_reads
    .release 7 htext rfl rfl sampleEncoding sampleDatagram_encoded sampleDatagram_distinguishable

end Sample

end Encodings

end DiscoveryPackets
