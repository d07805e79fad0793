import Rustuya.PeerSession
import Rustuya.StreamFraming

/-!
# What the device says

The other direction of a connection. The device frames its messages under the key of the
connection, with a return code before the payload, and the receive task takes them off the
connection one after the other.
-/
namespace PeerReplies

open CheckedExecution StatefulExecution ByteCodec Error Crypto Message FrameSafety FrameRoundTrip
open Protocol PayloadRoundTrip Json SessionKey DeviceState DeviceDetection StreamReader
open StreamFraming hiding announced
open ConnectionTask TransitionSystem
open TaskRefinement (stageOf)
open TaskBranches (Branch next_move SendFailure cached_sameSession packet_sameSession)
open RequestRefinement (newMessages)
open Peer PeerSession

section Writing

variable (C : Crates)

structure Reply where
  letter : Letter
  retcode : UInt32

def codedPayload (protocol : TuyaProtocol) (cipher : TuyaCipher) (letter : Letter) :
    Result Bytes :=
  if letter.payload.isEmpty then .ok []
  else protocol.packPayload C letter.payload letter.cmd cipher

/-- The message that is framed. In a 55AA frame the return code is a part of the payload. -/
def Reply.message (reply : Reply) (protocol : TuyaProtocol) (iv : U8Array 12) (packed : Bytes) :
    TuyaMessage :=
  if protocol.getPrefix = prefix6699 then
    ⟨reply.letter.seqno, reply.letter.cmd, some reply.retcode, packed, prefix6699, some iv.val⟩
  else
    ⟨reply.letter.seqno, reply.letter.cmd, none, writeU32 reply.retcode ++ packed, prefix55aa,
      none⟩

def writeReply (protocol : TuyaProtocol) (key : Key) (iv : U8Array 12) (reply : Reply) :
    Result Bytes := do
  let packed ← codedPayload C protocol ⟨key⟩ reply.letter
  packMessage C .release iv (reply.message protocol iv packed) (protocol.getHmacKey key.val)

/-- What the device may say: nothing at all, or an object that is not the complaint by which
the other device type is detected. Without a header in front, its first block must not look
like one. -/
structure Sayable (S : Codec) (version : Version) (key : Key) (letter : Letter) : Prop where
  fits : Fits letter.payload
  object : letter.payload ≠ [] → OpensBrace letter.payload ∧
    (S.fromSlice letter.payload).isSome = true ∧ ¬ dataUnvalid <:+: letter.payload ∧
    (version = .v32 ∨ version = .v33 → letter.cmd ∈ noProtocolHeaderCmds →
      ¬ LooksHeaded C ⟨key⟩ version letter.payload)

end Writing

section Reading

variable {C : Crates} {S : Codec} {build : Build} {device : Device} {version : Version}
  {devType : DeviceType} {key : Key} {iv : U8Array 12} {reply : Reply} {packed bytes : Bytes}

theorem decryptPayload_coded (hB : C.BlockLaw) (h64 : C.Base64Law) (hv : version ≠ .auto)
    (hsay : Sayable C S version key reply.letter) (hne : reply.letter.payload ≠ [])
    (hpacked : codedPayload C (getProtocol version .default) ⟨key⟩ reply.letter = .ok packed)
    (devType : DeviceType) :
    (getProtocol version devType).decryptPayload C packed ⟨key⟩ = .ok reply.letter.payload := by
  obtain ⟨hbrace, -, -, hhead⟩ := hsay.object hne
  have hcodec : codec C (getProtocol version .default) ⟨key⟩ reply.letter.payload
      reply.letter.cmd = .ok reply.letter.payload := by
    have houter : ∀ {v : Version}, Headed v →
        (reply.letter.cmd ∈ noProtocolHeaderCmds →
          ¬ LooksHeaded C ⟨key⟩ v reply.letter.payload) →
        (packPayloadOuter C v reply.letter.payload reply.letter.cmd ⟨key⟩ >>= fun packed =>
          decryptPayloadOuter C v packed ⟨key⟩) = .ok reply.letter.payload := by
      intro v hheaded hplain
      by_cases hcmd : reply.letter.cmd ∈ noProtocolHeaderCmds
      · exact (codec_outer_headerless _ hB hheaded hbrace hcmd).mpr (.inl (hplain hcmd))
      · exact codec_outer _ hB hheaded hbrace hcmd
    cases version with
    | auto => exact absurd rfl hv
    | v31 => exact codec_v31 _ hB h64 hbrace _
    | v32 => exact houter (v := .v32) trivial (hhead (.inl rfl))
    | v33 => exact houter (v := .v33) trivial (hhead (.inr rfl))
    | v34 => exact codec_v34 _ hB hbrace _
    | v35 => exact codec_v35 _ hbrace _
  rw [codedPayload, List.isEmpty_eq_false_iff.mpr hne, if_neg Bool.false_ne_true] at hpacked
  have hsame : (getProtocol version devType).decryptPayload C packed ⟨key⟩
      = (getProtocol version .default).decryptPayload C packed ⟨key⟩ := by
    cases devType <;> rfl
  rw [hsame]
  rw [codec, hpacked, Outcome.ok_bind] at hcodec
  exact hcodec

theorem coded_length (h64 : C.Base64Law) {protocol : TuyaProtocol}
    (hfits : Fits reply.letter.payload)
    (hpacked : codedPayload C protocol ⟨key⟩ reply.letter = .ok packed) :
    packed.length + 128 < 2 ^ 32 := by
  unfold Fits at hfits
  unfold codedPayload at hpacked
  split at hpacked
  · cases hpacked
    decide
  · have hlen := packPayload_length h64 hpacked
    omega

theorem wellFormed_55aa {hmacKey : Option Bytes} {data : Bytes} (h16 : 16 ≤ data.length)
    (h55 : readU32 data = prefix55aa) (hlen : (lengthField data 16).toNat + 16 = data.length)
    (hlt : data.length < 2 ^ 32) (hroom : hmacKey.isSome → 36 ≤ data.length) :
    WellFormed build hmacKey data := by
  have hfit : (lengthField data 16).toNat + 16 < 2 ^ 32 := by omega
  refine ⟨⟨fun _ _ => hfit, fun _ h66 => ?_⟩, ⟨_, parseHeader_55aa build h16 h55 hfit, ?_⟩,
    fun _ => hroom⟩
  · exact absurd (h66.symm.trans h55) prefix_ne
  · rw [toNat_add_16 hfit, hlen]

theorem wellFormed_6699 {hmacKey : Option Bytes} {data : Bytes} (h18 : 18 ≤ data.length)
    (h66 : readU32 data = prefix6699) (hlen : (lengthField data 18).toNat + 22 = data.length)
    (hlt : data.length < 2 ^ 32) : WellFormed build hmacKey data := by
  have hfit : (lengthField data 18).toNat + 22 < 2 ^ 32 := by omega
  have hno : readU32 data ≠ prefix55aa := by
    rw [h66]
    exact prefix_ne
  refine ⟨⟨fun _ h55 => absurd h55 hno, fun _ _ => hfit⟩,
    ⟨_, parseHeader_6699 build h18 h66 hfit, ?_⟩, fun h55 => absurd h55 hno⟩
  rw [toNat_add_22 hfit, hlen]

structure Delivers (C : Crates) (build : Build) (hmacKey : Option Bytes) (reply : Reply)
    (packed bytes : Bytes) : Prop where
  wellFormed : WellFormed build hmacKey bytes
  unpacks : ∃ msg, unpackMessage C build bytes hmacKey none (some false) = .ok msg ∧
    msg.seqno = reply.letter.seqno ∧ msg.cmd = reply.letter.cmd ∧ msg.payload = packed

theorem delivers_55aa {hmacKey : Option Bytes} (hfit : packed.length + 128 < 2 ^ 32)
    (h : pack55aa C .release ⟨reply.letter.seqno, reply.letter.cmd, none,
      writeU32 reply.retcode ++ packed, prefix55aa, none⟩ hmacKey = .ok bytes) :
    Delivers C build hmacKey reply packed bytes := by
  set body := writeU32 reply.retcode ++ packed with hbody
  have hbodyLen : body.length = 4 + packed.length := by
    rw [hbody, List.length_append, length_writeU32]
  have hend := endLen_le hmacKey
  have hroom : body.length + 16 + endLen hmacKey < 2 ^ 32 := by omega
  rw [pack55aa_eq C .release _ _ none hroom] at h
  obtain rfl := Outcome.ok.inj h
  constructor
  · set len := UInt32.ofNat (body.length + endLen hmacKey) with hlen
    have hn : len.toNat = body.length + endLen hmacKey := by
      rw [hlen, UInt32.toNat_ofNat', Nat.mod_eq_of_lt (by omega)]
    set data := header55aa reply.letter.seqno reply.letter.cmd len ++ body with hdata
    have hfoot := length_footer55aa C hmacKey data
    obtain ⟨h16, h55, -, -, hfield⟩ := fields55aa reply.letter.seqno reply.letter.cmd len
      (body ++ (footer55aa C hmacKey data ++ writeU32 suffix55aa))
    rw [← List.append_assoc, ← hdata] at h16 h55 hfield
    have hdataLen : data.length = 16 + body.length := by
      rw [hdata, List.length_append, length_header55aa]
    have htail : (footer55aa C hmacKey data ++ writeU32 suffix55aa).length = endLen hmacKey := by
      rw [List.length_append, length_writeU32, hfoot]
    have hall : (data ++ (footer55aa C hmacKey data ++ writeU32 suffix55aa)).length
        = 16 + body.length + endLen hmacKey := by
      rw [List.length_append, hdataLen, htail]
    refine wellFormed_55aa h16 h55 ?_ (by omega) ?_
    · rw [hfield, hn, hall]
      omega
    · intro hkey
      have hlong : endLen hmacKey = 36 := if_pos hkey
      omega
  · have hread := unpack_frame55aa C build reply.letter.seqno reply.letter.cmd [] hroom
      (some false)
    dsimp only at hread
    rw [List.append_nil] at hread
    exact ⟨_, hread, rfl, rfl, rfl⟩

theorem delivers_6699 (hG : C.GcmLaw) (hfit : packed.length + 128 < 2 ^ 32)
    (h : pack6699 C iv ⟨reply.letter.seqno, reply.letter.cmd, some reply.retcode, packed,
      prefix6699, some iv.val⟩ (some key.val) = .ok bytes) :
    Delivers C build (some key.val) reply packed bytes := by
  set raw := retcodeBytes (some reply.retcode) ++ packed with hraw
  have hrawLen : raw.length = 4 + packed.length := by
    rw [hraw, List.length_append, retcodeBytes, length_writeU32]
  have hroom : raw.length + 50 < 2 ^ 32 := by omega
  obtain ⟨c, hc, hpack, hdec⟩ :=
    pack6699_eq C hG reply.letter.seqno reply.letter.cmd key iv iv hroom
  rw [← hraw] at hc
  rw [hpack] at h
  obtain rfl := Outcome.ok.inj h
  constructor
  · set len := UInt32.ofNat (12 + c.length) with hlen
    have hn : len.toNat = 12 + c.length := by
      rw [hlen, UInt32.toNat_ofNat', Nat.mod_eq_of_lt (by omega)]
    obtain ⟨h18, h66, -, -, hfield⟩ := fields6699 reply.letter.seqno reply.letter.cmd len
      (iv.val ++ (c ++ writeU32 suffix6699))
    have hall : (header6699Bytes reply.letter.seqno reply.letter.cmd len ++
        (iv.val ++ (c ++ writeU32 suffix6699))).length = 34 + c.length := by
      simp only [List.length_append, length_header6699Bytes, length_writeU32, iv.property]
      omega
    refine wellFormed_6699 h18 h66 ?_ (by omega)
    rw [hfield, hn, hall]
    omega
  · have hread := unpack_frame6699 C build hc hroom rfl hdec (some false) []
    rw [List.append_nil] at hread
    exact ⟨_, hread, rfl, rfl, rfl⟩

theorem writeReply_delivers (build : Build) (hG : C.GcmLaw) (h64 : C.Base64Law)
    {protocol : TuyaProtocol}
    (hfits : Fits reply.letter.payload)
    (h : writeReply C protocol key iv reply = .ok bytes) :
    ∃ packed, codedPayload C protocol ⟨key⟩ reply.letter = .ok packed ∧
      Delivers C build (protocol.getHmacKey key.val) reply packed bytes := by
  obtain ⟨packed, hpacked, h⟩ := Outcome.bind_eq_ok h
  have hfit := coded_length h64 hfits hpacked
  refine ⟨packed, hpacked, ?_⟩
  rw [packMessage, Reply.message] at h
  rcases framing_cases protocol with h55 | ⟨h66, hkey⟩
  · rw [h55, if_neg prefix_ne.symm] at h
    exact delivers_55aa hfit h
  · rw [h66, if_pos rfl, hkey] at h
    rw [hkey]
    exact delivers_6699 hG hfit h

theorem packPayload_ne_nil {protocol : TuyaProtocol} {cipher : TuyaCipher} {payload : Bytes}
    {cmd : UInt32} (hne : payload ≠ [])
    (h : protocol.packPayload C payload cmd cipher = .ok packed) : packed ≠ [] := by
  have hheaded : ∀ {v : Version} {data : Bytes}, Headed v → data ≠ [] →
      (if cmd ∉ noProtocolHeaderCmds then addProtocolHeader v data else data) ≠ [] := by
    intro v data hv hdata
    split
    · rw [addProtocolHeader]
      exact List.append_ne_nil_of_right_ne_nil _ hdata
    · exact hdata
  induction protocol with
  | v31 =>
    obtain rfl := Outcome.ok.inj ((packPayloadV31_eq payload cmd cipher).symm.trans h)
    split
    · exact List.append_ne_nil_of_left_ne_nil (List.append_ne_nil_of_left_ne_nil (by decide) _) _
    · exact hne
  | v32 =>
    obtain rfl := Outcome.ok.inj ((packPayloadOuter_eq .v32 payload cmd cipher).symm.trans h)
    exact hheaded (v := .v32) trivial (sealed_ne_nil cipher payload)
  | v33 =>
    obtain rfl := Outcome.ok.inj ((packPayloadOuter_eq .v33 payload cmd cipher).symm.trans h)
    exact hheaded (v := .v33) trivial (sealed_ne_nil cipher payload)
  | v34 =>
    have hpacked : packed = sealed C cipher (if cmd ∉ noProtocolHeaderCmds then
        addProtocolHeader .v34 payload else payload) := (Outcome.ok.inj h).symm
    rw [hpacked]
    exact sealed_ne_nil cipher _
  | v35 =>
    obtain rfl := Outcome.ok.inj h
    exact hheaded (v := .v35) trivial hne
  | dev22 base ih => exact ih h

theorem run_decodePacket_reply (hB : C.BlockLaw) (h64 : C.Base64Law) (hv : version ≠ .auto)
    {s : State} (hversion : s.version = version) (hkey : s.activeKey device = key.val)
    (hsay : Sayable C S version key reply.letter)
    (hpacked : codedPayload C (getProtocol version .default) ⟨key⟩ reply.letter = .ok packed)
    (hdelivers : Delivers C build ((getProtocol version .default).getHmacKey key.val) reply packed
      bytes)
    {header : TuyaHeader} (hparse : parseHeader build bytes = .ok header) :
    ∃ msg, (decodePacket C build device bytes header).run s = (.ok msg, s.cached (.ok ⟨key⟩)) ∧
      letterOf msg = reply.letter := by
  obtain ⟨-, msg, hmsg, hseqno, hcmd, hpayload⟩ := hdelivers
  have hnew : TuyaCipher.new (s.activeKey device) = .ok ⟨key⟩ := by
    rw [hkey]
    exact dif_pos key.property
  have hunpack : unpackMessage C build bytes
      ((getProtocol s.version s.devType).getHmacKey key.val) (some header) (some false)
      = .ok msg := by
    have hsame : (getProtocol s.version s.devType).getHmacKey key.val
        = (getProtocol version .default).getHmacKey key.val := by
      rw [hversion]
      cases s.devType <;> rfl
    rw [unpackMessage, hparse, Outcome.ok_bind] at hmsg
    rw [hsame, unpackMessage, Outcome.ok_bind]
    exact hmsg
  have hcheck : (unpackAndCheckDev22 C build device bytes header).run s
      = (.ok msg, s.cached (.ok ⟨key⟩)) := by
    rw [run_unpackVerdict, checked, hnew]
    dsimp only
    rw [unpackVerdict, hunpack]
    rfl
  rw [decodePacket, Program.run_bind_ok hcheck]
  by_cases hne : reply.letter.payload = []
  · have hnil : packed = [] := by
      rw [codedPayload, hne, List.isEmpty_nil, if_pos rfl] at hpacked
      exact (Outcome.ok.inj hpacked).symm
    rw [hpayload, hnil, List.isEmpty_nil, if_pos rfl]
    refine ⟨msg, rfl, ?_⟩
    rw [letterOf, hseqno, hcmd, hpayload, hnil, ← hne]
  · have hcoded := hpacked
    rw [codedPayload, List.isEmpty_eq_false_iff.mpr hne, if_neg Bool.false_ne_true] at hcoded
    have hfull := packPayload_ne_nil hne hcoded
    obtain ⟨-, -, hquiet, -⟩ := hsay.object hne
    have hsettings := sameSettings_cached s (.ok ⟨key⟩)
    have hdecrypt : (decryptAndCleanPayload C device packed).run (s.cached (.ok ⟨key⟩))
        = (.ok reply.letter.payload, s.cached (.ok ⟨key⟩)) := by
      have hplain : ∀ devType,
          (getProtocol s.version devType).decryptPayload C packed ⟨key⟩
            = .ok reply.letter.payload := by
        rw [hversion]
        exact decryptPayload_coded hB h64 hv hsay hne hpacked
      rw [run_decryptVerdict, checked, hsettings.activeKey, hnew]
      dsimp only
      rw [hsettings.version, decryptVerdict, hplain]
      dsimp only
      rw [decide_eq_false hquiet, Bool.and_false, if_neg Bool.false_ne_true]
      rfl
    rw [hpayload, List.isEmpty_eq_false_iff.mpr hfull, if_neg Bool.false_ne_true,
      Program.run_bind_ok hdecrypt]
    refine ⟨_, rfl, ?_⟩
    rw [letterOf, hseqno, hcmd]

theorem run_processSocketData_reply (hB : C.BlockLaw) (hG : C.GcmLaw) (h64 : C.Base64Law)
    (hv : version ≠ .auto) {r : Reader} (hversion : r.device.version = version)
    (hkey : r.device.activeKey device = key.val) (hsay : Sayable C S version key reply.letter)
    (hframe : writeReply C (getProtocol version .default) key iv reply = .ok bytes)
    {firstByte : UInt8} {tail rest : Bytes} (hbytes : firstByte :: tail = bytes ++ rest)
    (hcount : build.overflowChecks = true → r.device.successCount.toNat + 1 < 2 ^ 32) :
    ∃ msg, letterOf msg = reply.letter ∧
      (processSocketData C S build device firstByte).run (r.rest tail)
        = (.ok (), { (r.rest rest).withDevice (r.device.cached (.ok ⟨key⟩)).counted with
            broadcast := r.broadcast ++ [msg] }) := by
  obtain ⟨packed, hpacked, hdelivers⟩ :=
    writeReply_delivers build hG h64 hsay.fits hframe
  have hwf := hdelivers.wellFormed
  obtain ⟨h16, hword⟩ := wellFormed_isPrefix hwf
  have hscan : (scanForPrefix firstByte).run (r.rest tail)
      = (.ok (some (bytes.take 4)), r.rest (bytes.drop 4 ++ rest)) :=
    run_scanForPrefix h16 hword (show firstByte :: tail = [] ++ (bytes ++ rest) from hbytes)
      (by decide) fun k hk => by cases hk
  have h12 : ((bytes.drop 4).take 12).length = 12 := by
    rw [List.length_take, List.length_drop]
    omega
  have hsplit : bytes.drop 4 ++ rest = (bytes.drop 4).take 12 ++ (bytes.drop 16 ++ rest) := by
    have hdrop : (bytes.drop 4).drop 12 = bytes.drop 16 := List.drop_drop
    rw [← List.append_assoc, ← hdrop, List.take_append_drop]
  have hhead : bytes.take 4 ++ (bytes.drop 4).take 12 = bytes.take 16 :=
    (List.take_add (i := 4) (j := 12)).symm
  obtain ⟨header, hparse, hpacket⟩ := run_readFullPacket (r := r) hwf rest
  obtain ⟨msg, hdecode, hletter⟩ : ∃ msg,
      (decodePacket C build device bytes header).run r.device
        = (.ok msg, r.device.cached (.ok ⟨key⟩)) ∧ letterOf msg = reply.letter :=
    run_decodePacket_reply hB h64 hv hversion hkey hsay hpacked hdelivers hparse
  have hbody : (parseAndReadBody C build device (bytes.take 16)).run
      (r.rest (bytes.drop 16 ++ rest))
      = (.ok msg, (r.rest rest).withDevice (r.device.cached (.ok ⟨key⟩))) := by
    rw [parseAndReadBody, Program.run_bind_ok hpacket]
    dsimp only
    rw [onDevice, Program.run_zoom, rest_device, hdecode]
  have hread : (readAndParseFromStream C S build device firstByte).run (r.rest tail)
      = (.ok (some msg), (r.rest rest).withDevice (r.device.cached (.ok ⟨key⟩))) := by
    have hsame := sameSettings_cached r.device (.ok ⟨key⟩)
    rw [readAndParseFromStream, Program.run_bind_ok hscan]
    dsimp only
    rw [hsplit, Program.run_bind_ok (run_readExact h12 _),
      Program.run_bind_ok (Program.run_read _ _), hhead]
    apply Program.run_orElse_ok
    rw [Program.run_bind_ok hbody, Program.run_bind_ok (Program.run_read _ _)]
    rw [if_neg (fun hc => hc.1 (hsame.devType.symm.trans hc.2))]
    rfl
  have hcount' : build.overflowChecks = true →
      (r.device.cached (.ok ⟨key⟩)).successCount.toNat + 1 < 2 ^ 32 := by
    rw [successCount_cached]
    exact hcount
  have hreset : (onDevice (resetFailureCount build)).run
      ((r.rest rest).withDevice (r.device.cached (.ok ⟨key⟩)))
      = (.ok (), (r.rest rest).withDevice (r.device.cached (.ok ⟨key⟩)).counted) := by
    rw [onDevice, Program.run_zoom, withDevice_device, run_resetFailureCount hcount']
    rfl
  refine ⟨msg, hletter, ?_⟩
  rw [processSocketData, Program.run_bind_ok hread]
  dsimp only
  rw [Program.run_bind_ok hreset]
  have hpayload : msg.payload = reply.letter.payload := congrArg Letter.payload hletter
  by_cases hne : reply.letter.payload = []
  · rw [hpayload, hne, List.isEmpty_nil, if_pos rfl]
    rfl
  · have hjson : (S.fromSlice msg.payload).isNone = false := by
      rw [hpayload, ← Option.not_isSome, (hsay.object hne).2.1]
      rfl
    rw [hjson, if_neg Bool.false_ne_true, ite_self]
    rfl

end Reading

section Attachment

variable {C : Crates} {S : Codec} {build : Build} {device : Device} {w w' : World} {e : Event}

def attached (pc : Pc) : Bool := decide (stageOf pc = .session) || decide (stageOf pc = .over)

theorem attached_session {pc : Pc} (h : stageOf pc = .session) : attached pc = true := by
  rw [attached, h]
  rfl

theorem attached_conclude (req : Request) (initial : Bool) (answer : Answer) :
    attached (w.conclude req initial answer).pc = true := by
  cases initial <;> rfl

theorem attached_attempt {p : Purpose} {a : Attempt} (hp : p.attempt = some a) (s : Sending) :
    attached (.sending p s) = false := by
  cases p <;> cases hp <;> rfl

theorem branch_key {t : TaskEvent} (h : Branch C S build device w t w')
    (hw : attached w.pc = true) (hw' : attached w'.pc = true) :
    w'.shared.sessionKey = w.shared.sessionKey := by
  cases h
  case responds hpc _ _ _ =>
    rw [hpc] at hw
    cases hw
  case stores hpc _ =>
    rw [hpc] at hw
    cases hw
  case packCrashes => exact (cached_sameSession _ _).sessionKey
  case negotiationUnsent => cases hw'
  case requestUnsent hfail => exact hfail.sameSession.sessionKey
  case heartbeatUnsent hfail => exact hfail.sameSession.sessionKey
  -- The others leave the key alone, or start where no connection is in use.
  all_goals first
    | rfl
    | (rename_i hpc; rw [hpc] at hw; cases hw)

theorem branch_attached {t : TaskEvent} (h : Branch C S build device w t w')
    (hw : attached w.pc = true) : attached w'.pc = true ∨ ∀ n, w'.reader ≠ .running n := by
  cases h
  case negotiationUnsent hp hfail =>
    obtain ⟨s, hpc⟩ := hfail.sending
    rw [hpc, attached_attempt hp] at hw
    cases hw
  case writeElapsed hpc hp =>
    rw [hpc, attached_attempt hp] at hw
    cases hw
  case disconnectSilent hpc _ | disconnectTold hpc _ =>
    rw [hpc] at hw
    cases hw
  all_goals first
    | exact .inl rfl
    | exact .inl hw
    | exact .inl (attached_conclude _ _ _)
    | exact .inr fun _ => ReaderStatus.noConfusion
    | (rename w.pc = _ => hpc; rw [hpc] at hw; first | cases hw | exact .inl hw)

theorem branch_reader {t : TaskEvent} (h : Branch C S build device w t w') {n : Int32}
    (hrun : w'.reader = .running n) : w.reader = .running n ∨ w'.pc = .maintain := by
  cases h
  all_goals first
    | exact .inl hrun
    | exact .inr rfl
    | cases hrun

theorem readerNext_running {r : ReaderEvent} (h : readerNext C S build device w r = some w')
    {n : Int32} (hrun : w'.reader = .running n) : ∃ m, w.reader = .running m := by
  cases hreader : w.reader with
  | running m => exact ⟨m, rfl⟩
  | absent | finished =>
    cases r with
    | packet | ended | cancelled =>
      rw [readerNext, hreader] at h
      cases h
    | late | gone =>
      rw [readerNext] at h
      split at h <;> cases h
      cases hreader.symm.trans hrun

def Manned (w : World) : Prop := ∀ n, w.reader = .running n → attached w.pc = true

theorem next_manned (h : next C S build device w e = some w') (hw : Manned w) : Manned w' := by
  intro n hrun
  cases e with
  | task t =>
    have hbranch : Branch C S build device w t w' := by
      cases next_move h with
      | task hbranch => exact hbranch
    rcases branch_reader hbranch hrun with hold | hpc
    · rcases branch_attached hbranch (hw n hold) with hattached | hnone
      · exact hattached
      · exact absurd hrun (hnone n)
    · rw [hpc]
      rfl
  | drop =>
    obtain ⟨-, -, rfl⟩ := dropTask_eq_some h
    rfl
  | reader r =>
    obtain ⟨m, hold⟩ := readerNext_running h hrun
    have hpc : w'.pc = w.pc := by cases readerNext_inv h <;> rfl
    rw [hpc]
    exact hw m hold
  | user u =>
    cases next_move h with
    | user hcall => cases hcall <;> exact hw n hrun

theorem next_reader (h : next C S build device w e = some w') {n : Int32}
    (hrun : w'.reader = .running n) :
    (∃ m, w.reader = .running m) ∨ stageOf w'.pc = .session := by
  cases e with
  | task t =>
    cases next_move h with
    | task hbranch =>
      rcases branch_reader hbranch hrun with hold | hpc
      · exact .inl ⟨n, hold⟩
      · rw [hpc]
        exact .inr rfl
  | drop =>
    obtain ⟨-, -, rfl⟩ := dropTask_eq_some h
    exact .inl ⟨n, hrun⟩
  | reader r => exact .inl (readerNext_running h hrun)
  | user u =>
    cases next_move h with
    | user hcall => cases hcall <;> exact .inl ⟨n, hrun⟩

theorem call_key {u : UserEvent} (h : TaskBranches.Call w u w') :
    w'.shared.sessionKey = w.shared.sessionKey := by
  cases h with
  | sets _ f hf => cases u <;> cases hf <;> rfl
  | _ => rfl

theorem next_key (h : next C S build device w e = some w') (hw : attached w.pc = true)
    (hw' : attached w'.pc = true) : w'.shared.activeKey device = w.shared.activeKey device := by
  have hkey : w'.shared.sessionKey = w.shared.sessionKey := by
    cases next_move h with
    | task hbranch => exact branch_key hbranch hw hw'
    | drop => rfl
    | reader hreader =>
      cases hreader with
      | packet firstByte stream | late firstByte stream =>
        exact (packet_sameSession w firstByte stream).sessionKey
      | _ => rfl
    | user hcall => exact call_key hcall
  rw [State.activeKey, State.activeKey, hkey]

/-- There is a connection from which messages are or will be read. -/
def Engaged (w : World) : Prop := stageOf w.pc = .session ∨ ∃ n, w.reader = .running n

theorem next_engaged (h : next C S build device w e = some w') (hw : Manned w)
    (hengaged : Engaged w') :
    (Engaged w ∧ w'.shared.activeKey device = w.shared.activeKey device) ∨
      (stageOf w.pc ≠ .session ∧ stageOf w'.pc = .session) := by
  by_cases hafter : stageOf w'.pc = .session
  · by_cases hbefore : stageOf w.pc = .session
    · exact .inl ⟨.inl hbefore, next_key h (attached_session hbefore) (attached_session hafter)⟩
    · exact .inr ⟨hbefore, hafter⟩
  · obtain ⟨n, hrun⟩ := hengaged.resolve_left hafter
    obtain ⟨m, hold⟩ := (next_reader h hrun).resolve_right hafter
    exact .inl ⟨.inr ⟨m, hold⟩, next_key h (hw m hold) (next_manned h hw n hrun)⟩

end Attachment

section Duplex

variable (C : Crates) (S : Codec) (build : Build) (device : Device) (σ : Setting)

/-- Both ends of the connection that is in use. -/
structure Duplex where
  world : World
  /-- What the device has written and nobody has read. -/
  inbox : Bytes
  /-- What the device has said. -/
  said : List Letter
  /-- What the receive task has broadcast. -/
  heard : List TuyaMessage

inductive DuplexEvent where
  /-- Anything but reading from the connection in use. -/
  | client (e : Event)
  | reply (reply : Reply) (iv : U8Array 12)
  | read

def readsInbox : Event → Bool
  | .reader (.packet _ _) => true
  | _ => false

/-- The key of the device, as it follows from the bytes it has seen. -/
def deviceKey (w : World) : Option Key :=
  match w.conns with
  | [] => none
  | c :: _ =>
    match ((σ.party w.conns.length).hears C c.bytes).1 with
    | .established key => some key
    | .awaitStart | .awaitFinish _ => none

def Duplex.follow (d : Duplex) (w : World) : Duplex :=
  if stageOf d.world.pc ≠ .session ∧ stageOf w.pc = .session then ⟨w, [], [], []⟩
  else { d with world := w }

def Duplex.say (d : Duplex) (reply : Reply) (frame : Result Bytes) : Option Duplex :=
  match frame with
  | .ok bytes => some { d with inbox := d.inbox ++ bytes, said := d.said ++ [reply.letter] }
  | .err _ | .panic => none

def duplexNext (d : Duplex) : DuplexEvent → Option Duplex
  | .client e =>
    if readsInbox e then none else (next C S build device d.world e).map d.follow
  | .reply reply iv =>
    if stageOf d.world.pc = .session then
      (deviceKey C σ d.world).bind fun key =>
        d.say reply (writeReply C σ.protocol key iv reply)
    else none
  | .read =>
    match d.inbox with
    | [] => none
    | firstByte :: bytes =>
      let stream : Stream := ⟨bytes, .silent⟩
      (next C S build device d.world (.reader (.packet firstByte stream))).map fun w =>
        { d with
          world := w
          inbox := (packetRead C S build device d.world firstByte stream).stream.bytes
          heard := d.heard ++ newMessages d.world w }

/-- The client is undisturbed, what the device says can be read, and no counter of a build with
overflow checks overflows. -/
def Permitted (d : Duplex) : DuplexEvent → Prop
  | .client e => Undisturbed C S build device σ d.world e
  | .reply reply _ =>
    ∀ key, deviceKey C σ d.world = some key → Sayable C S σ.version key reply.letter
  | .read => fitsAt d.world.pc = true ∧
      (build.overflowChecks = true → d.world.shared.successCount.toNat + 1 < 2 ^ 32)

def start (b : DeviceBuilder) : Duplex := ⟨b.run, [], [], []⟩

inductive Waiting (key : Key) : List Reply → Bytes → Prop where
  | nil : Waiting key [] []
  | cons {reply : Reply} {iv : U8Array 12} {bytes rest : Bytes} {replies : List Reply}
      (hsay : Sayable C S σ.version key reply.letter)
      (hframe : writeReply C σ.protocol key iv reply = .ok bytes)
      (h : Waiting key replies rest) : Waiting key (reply :: replies) (bytes ++ rest)

variable {C S build device σ} {d d' : Duplex} {w : World}

theorem Waiting.append {key : Key} {replies : List Reply} {inbox : Bytes}
    (h : Waiting C S σ key replies inbox) {reply : Reply} {iv : U8Array 12} {bytes : Bytes}
    (hsay : Sayable C S σ.version key reply.letter)
    (hframe : writeReply C σ.protocol key iv reply = .ok bytes) :
    Waiting C S σ key (replies ++ [reply]) (inbox ++ bytes) := by
  induction h with
  | nil =>
    have hone := Waiting.cons hsay hframe .nil
    rwa [List.append_nil] at hone
  | cons hfirst hfirstFrame _ ih =>
    rw [List.cons_append, List.append_assoc]
    exact .cons hfirst hfirstFrame ih

theorem Waiting.nothing (hG : C.GcmLaw) (h64 : C.Base64Law) {key : Key} {unread : List Reply}
    (h : Waiting C S σ key unread []) : unread = [] := by
  generalize hinbox : ([] : Bytes) = inbox at h
  cases h with
  | nil => rfl
  | @cons reply iv frame rest replies hsay hframe hrest =>
    obtain ⟨packed, -, hdelivers⟩ :=
      writeReply_delivers .release hG h64 hsay.fits hframe
    have hlong := (wellFormed_isPrefix hdelivers.wellFormed).1
    rw [(List.nil_eq_append_iff.mp hinbox).1] at hlong
    cases hlong

variable (C S device σ) in
/-- What has been said has been heard or is waiting, in this order. -/
structure Aligned (d : Duplex) : Prop where
  manned : Manned d.world
  words : ∃ unread : List Reply, d.said = d.heard.map letterOf ++ unread.map Reply.letter ∧
    (Engaged d.world → ∃ key : Key, d.world.shared.activeKey device = key.val ∧
      Waiting C S σ key unread d.inbox)
  told : d.heard.Sublist d.world.broadcast

/-- What is known of the client in a run that nobody disturbs. -/
structure Tuned (C : Crates) (device : Device) (σ : Setting) (w : World) : Prop where
  version : w.shared.version = σ.version
  key : stageOf w.pc = .session → ∃ key : Key, w.shared.activeKey device = key.val ∧
    deviceKey C σ w = some key

theorem next_broadcast {e : Event} {w w' : World} (h : next C S build device w e = some w') :
    w'.broadcast = w.broadcast ++ newMessages w w' :=
  RequestLifecycle.step_broadcast (RequestRefinement.next_step h)

theorem Aligned.follow (hd : Aligned C S device σ d) {e : Event}
    (hnext : next C S build device d.world e = some w) (htuned : Tuned C device σ w) :
    Aligned C S device σ (d.follow w) := by
  have hmanned := next_manned hnext hd.manned
  obtain ⟨unread, hsaid, hwaiting⟩ := hd.words
  unfold Duplex.follow
  split
  next hfresh =>
    refine ⟨hmanned, ⟨[], rfl, fun _ => ?_⟩, List.nil_sublist _⟩
    obtain ⟨key, hkey, -⟩ := htuned.key hfresh.2
    exact ⟨key, hkey, .nil⟩
  next hsame =>
    refine ⟨hmanned, ⟨unread, hsaid, fun hengaged => ?_⟩, ?_⟩
    · obtain ⟨hbefore, hkept⟩ := (next_engaged hnext hd.manned hengaged).resolve_right hsame
      obtain ⟨key, hkey, hwait⟩ := hwaiting hbefore
      exact ⟨key, hkept.trans hkey, hwait⟩
    · rw [next_broadcast hnext]
      exact hd.told.trans (List.sublist_append_left _ _)

theorem Aligned.say (hd : Aligned C S device σ d) (htuned : Tuned C device σ d.world)
    (hsession : stageOf d.world.pc = .session) {key : Key}
    (hkey : deviceKey C σ d.world = some key) {reply : Reply} {iv : U8Array 12}
    (hsay : Sayable C S σ.version key reply.letter)
    (hnext : d.say reply (writeReply C σ.protocol key iv reply) = some d') :
    Aligned C S device σ d' := by
  unfold Duplex.say at hnext
  split at hnext
  next bytes hframe =>
    cases hnext
    obtain ⟨unread, hsaid, hwaiting⟩ := hd.words
    refine ⟨hd.manned, ⟨unread ++ [reply], ?_, fun hengaged => ?_⟩, hd.told⟩
    · rw [hsaid, List.map_append, List.append_assoc]
      rfl
    · obtain ⟨key', hactive, hwait⟩ := hwaiting hengaged
      -- Both ends have the same key.
      obtain ⟨own, hown, hmine⟩ := htuned.key hsession
      rw [hkey] at hmine
      cases hmine
      obtain rfl : key' = key := Subtype.ext (hactive.symm.trans hown)
      exact ⟨key', hactive, hwait.append hsay hframe⟩
  · cases hnext
  · cases hnext

theorem Waiting.read (hB : C.BlockLaw) (hG : C.GcmLaw) (h64 : C.Base64Law) {key : Key}
    {unread : List Reply} {firstByte : UInt8} {bytes : Bytes}
    (h : Waiting C S σ key unread (firstByte :: bytes)) (hversion : w.shared.version = σ.version)
    (hkey : w.shared.activeKey device = key.val)
    (hcount : build.overflowChecks = true → w.shared.successCount.toNat + 1 < 2 ^ 32) :
    ∃ reply replies rest msg, unread = reply :: replies ∧ letterOf msg = reply.letter ∧
      Waiting C S σ key replies rest ∧
      (packetRead C S build device w firstByte ⟨bytes, .silent⟩).stream.bytes = rest ∧
      (packetRead C S build device w firstByte ⟨bytes, .silent⟩).broadcast = [msg] := by
  generalize hinbox : firstByte :: bytes = inbox at h
  cases h with
  | nil => cases hinbox
  | @cons reply iv frame rest replies hsay hframe hrest =>
    obtain ⟨msg, hletter, hrun⟩ := run_processSocketData_reply hB hG h64 σ.explicit
      (r := ⟨w.shared, ⟨bytes, .silent⟩, []⟩) hversion hkey hsay hframe hinbox hcount
    have hread : packetRead C S build device w firstByte ⟨bytes, .silent⟩ = _ :=
      congrArg Prod.snd hrun
    refine ⟨reply, replies, rest, msg, rfl, hletter, hrest, ?_, ?_⟩
    · rw [hread]
      rfl
    · rw [hread]
      rfl

theorem Aligned.read (hB : C.BlockLaw) (hG : C.GcmLaw) (h64 : C.Base64Law)
    (hd : Aligned C S device σ d) (hversion : d.world.shared.version = σ.version)
    (hcount : build.overflowChecks = true → d.world.shared.successCount.toNat + 1 < 2 ^ 32)
    (hnext : duplexNext C S build device σ d .read = some d') :
    Aligned C S device σ d' ∧ ∃ msg, d'.heard = d.heard ++ [msg] ∧ d'.said = d.said := by
  unfold duplexNext at hnext
  cases hinbox : d.inbox with
  | nil =>
    rw [hinbox] at hnext
    cases hnext
  | cons firstByte bytes =>
    rw [hinbox] at hnext
    obtain ⟨w, hworld, rfl⟩ := Option.map_eq_some_iff.mp hnext
    obtain ⟨unread, hsaid, hwaiting⟩ := hd.words
    have hpc : w.pc = d.world.pc := by
      cases next_move hworld with
      | reader hreader => cases hreader; rfl
    have hrunning : ∃ n, d.world.reader = .running n := by
      cases hreader : d.world.reader with
      | running n => exact ⟨n, rfl⟩
      | absent | finished =>
        rw [next, readerNext, hreader] at hworld
        cases hworld
    obtain ⟨key, hkey, hwait⟩ := hwaiting (.inr hrunning)
    rw [hinbox] at hwait
    obtain ⟨reply, replies, rest, msg, rfl, hletter, hrest, hleft, hheard⟩ :=
      hwait.read hB hG h64 hversion hkey hcount
    have hnew : newMessages d.world w = [msg] :=
      (RequestLifecycle.step_heard (RequestRefinement.next_step hworld)).trans hheard
    refine ⟨⟨next_manned hworld hd.manned, ⟨replies, ?_, fun hengaged => ?_⟩, ?_⟩, msg, ?_, rfl⟩
    · rw [hsaid, hnew, List.map_append, List.map_cons, List.append_assoc, ← hletter]
      rfl
    · have hstays : ¬ (stageOf d.world.pc ≠ .session ∧ stageOf w.pc = .session) := by
        rw [hpc]
        exact fun hboth => hboth.1 hboth.2
      obtain ⟨-, hkept⟩ := (next_engaged hworld hd.manned hengaged).resolve_right hstays
      refine ⟨key, hkept.trans hkey, ?_⟩
      rw [hleft]
      exact hrest
    · rw [next_broadcast hworld]
      exact hd.told.append (List.Sublist.refl _)
    · rw [hnew]

end Duplex

section Runs

variable {C : Crates} {S : Codec} {build : Build} {b : DeviceBuilder} {σ : Setting} {d : Duplex}
  {es : List DuplexEvent} {fs : List Event} {w : World}

theorem run_tuned (hB : C.BlockLaw) (hG : C.GcmLaw) (h64 : C.Base64Law)
    (hversion : b.version = σ.version) (hlocal : b.localKey = σ.localKey.val)
    (h : Execution (next C S build b.device) (Undisturbed C S build b.device σ) b.run fs w) :
    Tuned C b.device σ w := by
  have hw := run_together hB hG h64 b hversion hlocal h
  have hframed := WireIntegrity.run_framed b (h.mono fun _ _ hallowed => hallowed.whole)
  refine ⟨hw.version, fun hsession => ?_⟩
  obtain ⟨c, rest, hconns⟩ : ∃ c rest, w.conns = c :: rest := by
    have hlive : (TaskRefinement.link w).stage.Live := by
      rw [show (TaskRefinement.link w).stage = .session from hsession]
      trivial
    exact List.exists_cons_of_ne_nil (hw.placed.connected hlive)
  obtain ⟨stage, hheard, -, hshares⟩ := attended_reached (hw.latest c rest hconns)
  obtain ⟨key, rfl, hactive⟩ := hshares hsession
  have hmem : c ∈ w.conns := by
    rw [hconns]
    exact List.mem_cons_self
  refine ⟨key, hactive, ?_⟩
  rw [deviceKey, hconns]
  dsimp only
  rw [List.length_cons, heard_hears hheard (hframed.earlier c hmem)]

theorem run_world
    (h : Execution (duplexNext C S build b.device σ) (Permitted C S build b.device σ) (start b) es
      d) :
    ∃ fs, Execution (next C S build b.device) (Undisturbed C S build b.device σ) b.run fs
      d.world := by
  refine h.invariant (P := fun d => ∃ fs, Execution (next C S build b.device)
    (Undisturbed C S build b.device σ) b.run fs d.world) ?_ ⟨[], .nil _⟩
  intro d e d' hallowed hnext ⟨fs, hfs⟩
  cases e with
  | client e =>
    rw [duplexNext] at hnext
    split at hnext
    · cases hnext
    · obtain ⟨w, hworld, rfl⟩ := Option.map_eq_some_iff.mp hnext
      have hsame : (d.follow w).world = w := by
        unfold Duplex.follow
        split <;> rfl
      rw [hsame]
      exact ⟨_, hfs.append (.cons hallowed hworld (.nil _))⟩
  | reply reply iv =>
    rw [duplexNext] at hnext
    split at hnext
    · obtain ⟨key, -, hsay⟩ := Option.bind_eq_some_iff.mp hnext
      unfold Duplex.say at hsay
      split at hsay <;> cases hsay
      exact ⟨fs, hfs⟩
    · cases hnext
  | read =>
    rw [duplexNext] at hnext
    split at hnext
    · cases hnext
    · obtain ⟨w, hworld, rfl⟩ := Option.map_eq_some_iff.mp hnext
      refine ⟨_, hfs.append (.cons ⟨rfl, rfl, hallowed.1, ?_⟩ hworld (.nil _))⟩
      intro remote hremote
      cases hremote

theorem run_aligned (hB : C.BlockLaw) (hG : C.GcmLaw) (h64 : C.Base64Law)
    (hversion : b.version = σ.version) (hlocal : b.localKey = σ.localKey.val)
    (h : Execution (duplexNext C S build b.device σ) (Permitted C S build b.device σ) (start b) es
      d) : Aligned C S b.device σ d := by
  have htuned : ∀ {es d}, Execution (duplexNext C S build b.device σ)
      (Permitted C S build b.device σ) (start b) es d → Tuned C b.device σ d.world := by
    intro es d hrun
    obtain ⟨fs, hworld⟩ := run_world hrun
    exact run_tuned hB hG h64 hversion hlocal hworld
  refine h.history (P := fun _ d => Aligned C S b.device σ d) ?_ ?_
  · refine ⟨fun _ => ReaderStatus.noConfusion, ⟨[], rfl, ?_⟩, List.nil_sublist _⟩
    rintro (hsession | ⟨n, hrun⟩)
    · cases hsession
    · cases hrun
  · intro es d e d' hrun hallowed hnext hd
    have hafter := htuned (hrun.append (.cons hallowed hnext (.nil _)))
    cases e with
    | client e =>
      rw [duplexNext] at hnext
      split at hnext
      · cases hnext
      · obtain ⟨w, hworld, rfl⟩ := Option.map_eq_some_iff.mp hnext
        have hsame : (d.follow w).world = w := by
          unfold Duplex.follow
          split <;> rfl
        rw [hsame] at hafter
        exact hd.follow hworld hafter
    | reply reply iv =>
      rw [duplexNext] at hnext
      split at hnext
      next hsession =>
        obtain ⟨key, hkey, hsay⟩ := Option.bind_eq_some_iff.mp hnext
        exact hd.say (htuned hrun) hsession hkey (hallowed key hkey) hsay
      · cases hnext
    | read => exact (hd.read hB hG h64 (htuned hrun).version hallowed.2 hnext).1

/-- In every run with a version set by the user, left alone, on which the device answers the
negotiation with its own nonces, no request is cut off inside its frame and no message is too
long for one: if all that the device then says under the key it has derived is `Sayable`, the
receive task broadcasts just the messages of the device, each once, in their order and with the
payload they had. While the connection is in use, nothing is missing but what has not been read
yet, and a reader that is running reads the next message. -/
theorem client_hears_what_device_said (C : Crates) (S : Codec) (build : Build) (hB : C.BlockLaw)
    (hG : C.GcmLaw) (h64 : C.Base64Law) (b : DeviceBuilder) (σ : Setting)
    (hversion : b.version = σ.version) (hlocal : b.localKey = σ.localKey.val)
    (h : Execution (duplexNext C S build b.device σ) (Permitted C S build b.device σ) (start b) es
      d) :
    d.heard.map letterOf <+: d.said ∧ d.heard.Sublist d.world.broadcast ∧
    (Engaged d.world → d.inbox = [] → d.heard.map letterOf = d.said) ∧
    (∀ n, d.world.reader = .running n → d.inbox ≠ [] → Permitted C S build b.device σ d .read →
      ∃ d' msg, duplexNext C S build b.device σ d .read = some d' ∧
        d'.heard = d.heard ++ [msg] ∧ (d.heard ++ [msg]).map letterOf <+: d.said) := by
  have hd := run_aligned hB hG h64 hversion hlocal h
  obtain ⟨unread, hsaid, hwaiting⟩ := hd.words
  refine ⟨⟨_, hsaid.symm⟩, hd.told, fun hengaged hempty => ?_, fun n hrunning hfull hallowed => ?_⟩
  · obtain ⟨key, -, hwait⟩ := hwaiting hengaged
    rw [hempty] at hwait
    rw [hsaid, hwait.nothing hG h64]
    exact (List.append_nil _).symm
  · obtain ⟨firstByte, bytes, hinbox⟩ := List.exists_cons_of_ne_nil hfull
    obtain ⟨d', hnext⟩ : ∃ d', duplexNext C S build b.device σ d .read = some d' := by
      rw [duplexNext, hinbox]
      dsimp only
      rw [next, readerNext, hrunning]
      exact ⟨_, rfl⟩
    obtain ⟨fs, hworld⟩ := run_world h
    have hspoken := (run_tuned hB hG h64 hversion hlocal hworld).version
    obtain ⟨hd', msg, hheard, hsame⟩ := hd.read hB hG h64 hspoken hallowed.2 hnext
    refine ⟨d', msg, hnext, hheard, ?_⟩
    obtain ⟨later, hlater, -⟩ := hd'.words
    rw [← hheard, ← hsame, hlater]
    exact List.prefix_append _ _

section Sample

open KnownAnswers

def sampleReply (seqno : UInt32) : Reply := ⟨⟨seqno, CommandType.status.code, samplePayload⟩, 0⟩

theorem sampleReply_sayable (seqno : UInt32) (key : Key) :
    Sayable crates (json []) .v34 key (sampleReply seqno).letter := by
  refine ⟨show Fits samplePayload by decide, fun _ => ⟨show OpensBrace samplePayload by decide,
    show ((json []).fromSlice samplePayload).isSome = true by decide +kernel,
    show ¬ dataUnvalid <:+: samplePayload by decide, ?_⟩⟩
  rintro (hfalse | hfalse) <;> cases hfalse

def sampleSteps : List DuplexEvent :=
  (SessionLifecycle.negotiationSteps ++ List.replicate 3 (Event.task .go)).map .client ++
    [.reply (sampleReply 7) sampleIv, .reply (sampleReply 8) sampleIv, .read]

def permitted (d : Duplex) : DuplexEvent → Bool
  | .client e =>
    undisturbed crates (json []) .release (sampleBuilder .v34).device sampleSetting d.world e
  | .reply reply _ => decide (reply.letter = (sampleReply reply.letter.seqno).letter)
  | .read => fitsAt d.world.pc

theorem permitted_permitted {d : Duplex} {e : DuplexEvent} (h : permitted d e = true) :
    Permitted crates (json []) .release (sampleBuilder .v34).device sampleSetting d e := by
  cases e with
  | client e => exact undisturbed_iff.mp h
  | reply reply iv =>
    intro key _
    rw [of_decide_eq_true h]
    exact sampleReply_sayable _ key
  | read => exact ⟨h, fun hchecks => by cases hchecks⟩

def sampleDuplex : Duplex → DuplexEvent → Option Duplex :=
  duplexNext crates (json []) .release (sampleBuilder .v34).device sampleSetting

theorem first_of_two_messages_heard :
    ∃ d, run (guarded permitted sampleDuplex) (start (sampleBuilder .v34)) sampleSteps = some d ∧
      d.said.length = 2 ∧ d.heard.length = 1 ∧ d.heard.map letterOf <+: d.said := by
  obtain ⟨d, hrun, hobserved⟩ : ∃ d,
      run (guarded permitted sampleDuplex) (start (sampleBuilder .v34)) sampleSteps = some d ∧
      (d.said.length, d.heard.length) = (2, 1) :=
    Option.map_eq_some_iff.mp (by decide +kernel)
  obtain ⟨hsaid, hheard⟩ := Prod.mk.inj hobserved
  refine ⟨d, hrun, hsaid, hheard, ?_⟩
  exact (client_hears_what_device_said crates (json []) .release blockLaw gcmLaw base64Law
    (sampleBuilder .v34) sampleSetting rfl rfl
    (execution_of_guarded_run (fun _ _ h => permitted_permitted h) hrun)).1

end Sample

end Runs

end PeerReplies
