import Rustuya.StreamFraming

/-!
# Streams that are not well formed

Two things a peer can send that the reader does not recover from. The length that a header
announces is added to the length of the header in 32 bits, which the largest announced
lengths overflow. A search for a prefix that gives up has already consumed the next four
bytes, and a packet that begins there is lost.
-/
namespace StreamRecovery

open CheckedExecution StatefulExecution ByteCodec Error Crypto Message Json DeviceState
open FrameSafety StreamReader StreamFraming

section HeaderLengths

/-- A complete header: 18 bytes with the prefix of a 6699 frame, 16 with any other. -/
def IsHeader (data : Bytes) : Prop :=
  data.length = if readU32 data = prefix6699 then 18 else 16

def overhead (msgPrefix : UInt32) : Nat := if msgPrefix = prefix55aa then 16 else 22

/-- A header that is accepted announces the length of the frame, as a number. -/
def LengthExact : Result TuyaHeader → Prop
  | .ok header => header.totalLength.toNat = header.payloadLen.toNat + overhead header.msgPrefix
  | .err _ => True
  | .panic => False

/-- A packet that is returned begins with the header and has the length it announces. -/
def PacketExact (build : Build) (data : Bytes) : Result (Bytes × TuyaHeader) → Prop
  | .ok (packet, header) =>
    parseHeader build data = .ok header ∧ data.length ≤ header.totalLength.toNat ∧
      packet.length = header.totalLength.toNat ∧ data <+: packet
  | .err _ => True
  | .panic => False

variable (build : Build) {data : Bytes}

theorem fits_of_exact_55aa (h16 : 16 ≤ data.length) (hp : readU32 data = prefix55aa)
    (h : LengthExact (parseHeader build data)) : (lengthField data 16).toNat + 16 < 2 ^ 32 := by
  rw [parseHeader_55aa_eq build h16 hp] at h
  rcases addU32_cases (ε := TuyaError) build (lengthField data 16) 16 with hadd | hadd
  · rw [hadd, Outcome.ok_bind] at h
    have hexact : (lengthField data 16 + 16).toNat = (lengthField data 16).toNat + 16 := h
    rw [← hexact]
    exact UInt32.toNat_lt _
  · rw [hadd, Outcome.panic_bind] at h
    exact h.elim

theorem fits_of_exact_6699 (h18 : 18 ≤ data.length) (hp : readU32 data = prefix6699)
    (h : LengthExact (parseHeader build data)) : (lengthField data 18).toNat + 22 < 2 ^ 32 := by
  rw [parseHeader_6699_eq build h18 hp] at h
  rcases addU32_cases (ε := TuyaError) build (lengthField data 18) 18 with hadd | hadd
  swap
  · rw [hadd, Outcome.panic_bind] at h
    exact h.elim
  rw [hadd, Outcome.ok_bind] at h
  rcases addU32_cases (ε := TuyaError) build (lengthField data 18 + 18) 4 with hadd' | hadd'
  swap
  · rw [hadd', Outcome.panic_bind] at h
    exact h.elim
  rw [hadd', Outcome.ok_bind] at h
  have hexact : (lengthField data 18 + 18 + 4).toNat = (lengthField data 18).toNat + 22 := h
  rw [← hexact]
  exact UInt32.toNat_lt _

theorem parseHeader_fits (hfit : LengthFits data) :
    (∃ e, parseHeader build data = .err e) ∨
      ∃ header, parseHeader build data = .ok header ∧ header.msgPrefix = readU32 data ∧
        header.totalLength.toNat = header.payloadLen.toNat + overhead header.msgPrefix := by
  by_cases h16 : 16 ≤ data.length
  swap
  · exact .inl ⟨_, parseHeader_short build (Nat.not_le.mp h16)⟩
  by_cases h55 : readU32 data = prefix55aa
  · have hf := hfit.frame55aa h16 h55
    exact .inr ⟨_, parseHeader_55aa build h16 h55 hf, h55.symm, toNat_add_16 hf⟩
  by_cases h66 : readU32 data = prefix6699
  swap
  · exact .inl ⟨_, parseHeader_other build h16 h55 h66⟩
  by_cases h18 : 18 ≤ data.length
  · have hf := hfit.frame6699 h18 h66
    exact .inr ⟨_, parseHeader_6699 build h18 h66 hf, h66.symm, toNat_add_22 hf⟩
  · exact .inl ⟨_, parseHeader_6699_short build h16 (Nat.not_le.mp h18) h66⟩

theorem run_completeHeader_header (h : IsHeader data) (r : Reader) (rest : Bytes) :
    (completeHeader (data.take 16)).run (r.rest (data.drop 16 ++ rest))
      = (.ok data, r.rest rest) := by
  have htake : readU32 (data.take 16) = readU32 data := readU32_take (by omega)
  rw [completeHeader, htake]
  unfold IsHeader at h
  split at h
  next h66 =>
    have hextra : (data.drop 16).length = 2 := by rw [List.length_drop]; omega
    rw [if_pos h66, Program.run_bind_ok (run_readExact hextra rest), List.take_append_drop]
    rfl
  next h66 =>
    have hnil : data.drop 16 = [] := List.drop_eq_nil_of_le (by omega)
    rw [if_neg h66, hnil, List.nil_append, List.take_of_length_le (by omega)]
    rfl

theorem packetExact_of_fits (h : IsHeader data) (hfit : LengthFits data) (r : Reader)
    (rest : Bytes) :
    PacketExact build data
      ((readFullPacket build (data.take 16)).run (r.rest (data.drop 16 ++ rest))).1 := by
  rw [readFullPacket, Program.run_bind_ok (run_completeHeader_header h r rest)]
  rcases parseHeader_fits build hfit with ⟨e, hparse⟩ | ⟨header, hparse, hword, htotal⟩
  · rw [hparse, Program.run_bind_err (Program.run_lift _ _)]
    trivial
  -- The sum has not wrapped, so there is room for the header.
  have hroom : data.length ≤ header.totalLength.toNat := by
    have hover : data.length ≤ overhead header.msgPrefix := by
      unfold IsHeader at h
      unfold overhead
      rw [hword]
      split at h
      next h66 => rw [if_neg (by rw [h66]; exact prefix_ne)]; omega
      next => split <;> omega
    omega
  rw [hparse, Program.run_bind_ok (Program.run_lift _ _)]
  dsimp only
  rw [if_neg (Nat.not_lt.mpr hroom)]
  by_cases hbody : header.totalLength.toNat - data.length ≤ rest.length
  · have hread : (readExact (header.totalLength.toNat - data.length)).run (r.rest rest)
        = (.ok (rest.take (header.totalLength.toNat - data.length)),
          r.rest (rest.drop (header.totalLength.toNat - data.length))) := if_pos hbody
    rw [Program.run_bind_ok hread]
    refine ⟨hparse, hroom, ?_, List.prefix_append _ _⟩
    rw [List.length_append, List.length_take, Nat.min_eq_left hbody]
    omega
  · have hread : (readExact (header.totalLength.toNat - data.length)).run (r.rest rest)
        = (.err (r.stream.ending.error "early eof"), r.rest []) := if_neg hbody
    rw [Program.run_bind_err hread]
    trivial

/-- For every header, in every build and on every stream: the arithmetic of the length is
exact, and the packet read after the header is as long as announced and begins with the
header, if and only if the sum of the announced and the fixed length fits in 32 bits. -/
theorem header_length_exact_iff (h : IsHeader data) :
    (LengthExact (parseHeader build data) ∧
      ∀ (r : Reader) (rest : Bytes), PacketExact build data
        ((readFullPacket build (data.take 16)).run (r.rest (data.drop 16 ++ rest))).1) ↔
    LengthFits data := by
  constructor
  · rintro ⟨hexact, -⟩
    exact ⟨fun h16 h55 => fits_of_exact_55aa build h16 h55 hexact,
      fun h18 h66 => fits_of_exact_6699 build h18 h66 hexact⟩
  · intro hfit
    refine ⟨?_, packetExact_of_fits build h hfit⟩
    rcases parseHeader_fits build hfit with ⟨e, hparse⟩ | ⟨header, hparse, -, htotal⟩
    · rw [hparse]
      trivial
    · rw [hparse]
      exact htotal

theorem heartbeat_header_exact :
    IsHeader (heartbeatAck.take 16) ∧
      LengthExact (parseHeader .release (heartbeatAck.take 16)) ∧
      ∀ (r : Reader) (rest : Bytes), PacketExact .release (heartbeatAck.take 16)
        ((readFullPacket .release ((heartbeatAck.take 16).take 16)).run
          (r.rest ((heartbeatAck.take 16).drop 16 ++ rest))).1 := by
  have hheader : IsHeader (heartbeatAck.take 16) := by
    unfold IsHeader
    decide
  refine ⟨hheader, (header_length_exact_iff .release hheader).mpr ?_⟩
  exact ⟨fun _ _ => by decide, fun h => absurd h (by decide)⟩

def largestHeader : Bytes :=
  [0x00, 0x00, 0x55, 0xaa, 0x00, 0x00, 0x00, 0x01, 0x00, 0x00, 0x00, 0x09,
    0xff, 0xff, 0xff, 0xff]

/-- A checked build panics on the addition. The other one announces a frame of 15 bytes, and
panics when it takes the part of them that follows the 16 bytes of the header. -/
theorem largest_length_overflows :
    IsHeader largestHeader ∧ parseHeader ⟨true⟩ largestHeader = .panic ∧
      parseHeader .release largestHeader = .ok ⟨prefix55aa, 1, 9, 0xffffffff, 15⟩ ∧
      ∀ (build : Build) (r : Reader), ((readFullPacket build largestHeader).run r).1 = .panic := by
  have hchecked : parseHeader ⟨true⟩ largestHeader = .panic := rfl
  have hrelease : parseHeader ⟨false⟩ largestHeader = .ok ⟨prefix55aa, 1, 9, 0xffffffff, 15⟩ := rfl
  refine ⟨by unfold IsHeader; decide, hchecked, hrelease, ?_⟩
  intro build r
  obtain ⟨checks⟩ := build
  cases checks with
  | true => rfl
  | false => rfl

end HeaderLengths

section GivingUp

variable {r : Reader} {bytes : Bytes} {firstByte : UInt8}

theorem clean_mono {m n : Nat} (h : Clean n bytes) (hmn : m ≤ n) : Clean m bytes :=
  fun k hk => h k (by omega)

theorem clean_drop {n : Nat} (k : Nat) (h : Clean n bytes) : Clean (n - k) (bytes.drop k) := by
  intro i hi
  rw [List.drop_drop]
  exact h (k + i) (by omega)

theorem exists_five_bytes (h : 5 ≤ bytes.length) :
    ∃ a b c d e more, bytes = a :: b :: c :: d :: e :: more := by
  rcases bytes with - | ⟨a, - | ⟨b, - | ⟨c, - | ⟨d, - | ⟨e, more⟩⟩⟩⟩⟩
  case cons.cons.cons.cons.cons => exact ⟨a, b, c, d, e, more, rfl⟩
  all_goals simp at h

theorem scanWindow_misses : ∀ (n : Nat) (bytes : Bytes), n + 4 ≤ bytes.length → Clean n bytes →
    (scanWindow n (readU32 bytes)).run (r.rest (bytes.drop 4))
      = (.ok none, r.rest (bytes.drop (n + 4))) := by
  intro n
  induction n with
  | zero => exact fun _ _ _ => rfl
  | succ n ih =>
    intro bytes hlen hclean
    have hhere : ¬ IsPrefix (readU32 bytes) := hclean 0 (by omega)
    rw [scanWindow, if_neg hhere]
    obtain ⟨a, b, c, d, e, more, rfl⟩ := exists_five_bytes (by omega : 5 ≤ bytes.length)
    have hread : readU8.run (r.rest ((a :: b :: c :: d :: e :: more).drop 4))
        = (.ok e, r.rest more) := run_readU8 e more
    rw [List.length_cons] at hlen
    rw [Program.run_bind_ok hread, shiftIn_readU32 a b c d e (e :: more) more]
    exact ih (b :: c :: d :: e :: more) (by omega) (clean_drop 1 hclean)

theorem scanForPrefix_misses (hlen : 1028 ≤ (firstByte :: bytes).length)
    (hclean : Clean 1024 (firstByte :: bytes)) :
    (scanForPrefix firstByte).run (r.rest bytes)
      = (.ok none, r.rest ((firstByte :: bytes).drop 1028)) := by
  rw [scanForPrefix, run_scanPositions 1024 (by rw [List.length_cons] at hlen; omega)]
  exact scanWindow_misses 1024 _ hlen hclean

def nextCount (build : Build) (packetsReceived : Int32) : Option Int32 :=
  match (addI32 build packetsReceived 1 : Result Int32) with
  | .ok n => some n
  | .err _ | .panic => none

def giveUp (build : Build) : Int32 × Reader → Option (Int32 × Reader)
  | (packetsReceived, r) =>
    match r.stream.bytes with
    | [] => none
    | b :: rest =>
      match (scanForPrefix b).run (r.rest rest) with
      | (.ok none, r') => (nextCount build packetsReceived).map (·, r')
      | _ => none

def giveUps (build : Build) : Nat → Int32 × Reader → Option (Int32 × Reader)
  | 0, x => some x
  | n + 1, x => (giveUp build x).bind (giveUps build n)

def nextPacket (build : Build) (firstByte : UInt8) : ReadM (Option (Bytes × TuyaHeader)) := do
  match ← scanForPrefix firstByte with
  | none => return none
  | some framePrefix =>
    let rest ← readExact 12
    let found ← readFullPacket build (framePrefix ++ rest)
    return some found

section Loop

variable (C : Crates) (S : Codec) (build : Build) (device : Device)

theorem readerLoop_giveUp {x y : Int32 × Reader} (h : giveUp build x = some y) (fuel : Nat) :
    readerLoop C S build device (fuel + 1) x.1 x.2 = readerLoop C S build device fuel y.1 y.2 := by
  obtain ⟨received, r⟩ := x
  dsimp only [giveUp] at h
  split at h
  · cases h
  next b rest hbytes =>
    split at h
    next r' hscan =>
      obtain ⟨n, hn, rfl⟩ := Option.map_eq_some_iff.mp h
      have hread : (readAndParseFromStream C S build device b).run (r.rest rest)
          = (.ok none, r') := by
        rw [readAndParseFromStream, Program.run_bind_ok hscan]
        rfl
      have hround : (processSocketData C S build device b).run (r.rest rest) = (.ok (), r') := by
        rw [processSocketData, Program.run_bind_ok hread]
        rfl
      have hadd : (addI32 build received 1 : Result Int32) = .ok n := by
        unfold nextCount at hn
        split at hn
        next hadd =>
          cases hn
          exact hadd
        · cases hn
        · cases hn
      simp only [readerLoop, hbytes, hround, hadd]
    · cases h

theorem readerLoop_giveUps {n : Nat} {x y : Int32 × Reader} (h : giveUps build n x = some y)
    (fuel : Nat) :
    readerLoop C S build device (fuel + n) x.1 x.2 = readerLoop C S build device fuel y.1 y.2 := by
  induction n generalizing x with
  | zero =>
    cases h
    rfl
  | succ n ih =>
    obtain ⟨z, hz, hrest⟩ := Option.bind_eq_some_iff.mp h
    rw [← Nat.add_assoc, readerLoop_giveUp C S build device hz, ih hrest]

theorem processSocketData_stream (firstByte : UInt8) (r : Reader) :
    ((processSocketData C S build device firstByte).run r).2.stream
      = ((nextPacket build firstByte).run r).2.stream := by
  have honDevice : ∀ {α : Type} (x : Program State TuyaError α),
      (onDevice x).Keeps Reader.stream := fun x s => rfl
  have hsend : ∀ msg, (send msg).Keeps Reader.stream := fun _ => Program.keeps_write fun _ => rfl
  have hafter : ((processSocketData C S build device firstByte).run r).2.stream
      = ((readAndParseFromStream C S build device firstByte).run r).2.stream := by
    refine Program.bind_keeps (f := Reader.stream) ?_ r
    intro found
    cases found with
    | none => exact Program.keeps_pure _
    | some msg =>
      refine .bind (honDevice _) fun _ => Program.keeps_ite (hsend msg)
        (Program.keeps_ite ?_ (hsend msg))
      exact .bind (Program.keeps_read _) fun _ => hsend _
  rw [hafter]
  refine Program.bind_agree (f := Reader.stream) ?_
  intro found t _
  cases found with
  | none => rfl
  | some framePrefix =>
    refine Program.bind_agree (f := Reader.stream) ?_
    intro rest u _
    rw [Program.run_bind_ok (Program.run_read _ _),
      Program.bind_keeps (f := Reader.stream) (fun _ => Program.keeps_pure _),
      Program.orElse_keeps (f := Reader.stream)]
    · rw [Program.bind_keeps (f := Reader.stream)]
      · exact Program.bind_keeps (f := Reader.stream) (fun _ => honDevice _) u
      · exact fun _ => .bind (Program.keeps_read _) fun _ =>
          Program.keeps_ite (Program.keeps_pure _) (Program.keeps_pure _)
    · exact fun _ => Program.keeps_ite (Program.keeps_lift _)
        (.bind (Program.keeps_read _) fun _ => Program.keeps_pure _)

end Loop

theorem nextCount_ok {build : Build} {n : Int32}
    (h : build.overflowChecks = true → n.toInt + 1 < 2 ^ 31) :
    nextCount build n = some (n + 1) := by
  have hone : (1 : Int32).toInt = 1 := rfl
  have hlow := n.le_toInt
  have hadd : addI32 build n 1 = (.ok (n + 1) : Result Int32) := by
    apply addI32_ok
    intro hc
    have := h hc
    omega
  rw [nextCount, hadd]

theorem nextCount_eq_some {build : Build} {n m : Int32} (h : nextCount build n = some m)
    (hc : build.overflowChecks = true) : n.toInt + 1 < 2 ^ 31 ∧ m.toInt = n.toInt + 1 := by
  have hone : (1 : Int32).toInt = 1 := rfl
  have hlow := n.le_toInt
  by_cases hlt : n.toInt + 1 < 2 ^ 31
  · rw [nextCount_ok fun _ => hlt] at h
    cases h
    refine ⟨hlt, ?_⟩
    rw [Int32.toInt_add, hone, Int.bmod_eq_of_le (by omega) (by omega)]
  · have hadd : addI32 build n 1 = (.panic : Result Int32) := by
      rw [addI32, if_neg (by omega), if_pos hc]
    rw [nextCount, hadd] at h
    cases h

end GivingUp

section Resynchronisation

variable {build : Build} {received : Int32} {r : Reader} {garbage packet rest : Bytes}

/-- The reader loop gets to a packet behind garbage: no search that gives up takes a byte of
it, and the round after some of them finds it and consumes exactly the packet. -/
structure Resynchronises (build : Build) (received : Int32) (r : Reader) (packet rest : Bytes) :
    Prop where
  spared : ∀ n x, giveUps build n (received, r) = some x → packet ++ rest <:+ x.2.stream.bytes
  found : ∃ n count r' b bytes header,
    giveUps build n (received, r) = some (count, r') ∧ r'.stream.bytes = b :: bytes ∧
    (nextPacket build b).run (r'.rest bytes) = (.ok (some (packet, header)), r.rest rest) ∧
    ∀ (C : Crates) (S : Codec) (device : Device),
      (∀ fuel, readerLoop C S build device (fuel + n) received r
        = readerLoop C S build device fuel count r') ∧
      ((processSocketData C S build device b).run (r'.rest bytes)).2.stream.bytes = rest

structure Behind (build : Build) (garbage packet : Bytes) : Prop where
  wellFormed : WellFormed build none packet
  clean : Clean garbage.length (garbage ++ packet)

theorem Behind.exists_cons (h : Behind build garbage packet) (rest : Bytes) :
    ∃ b bytes, garbage ++ (packet ++ rest) = b :: bytes := by
  have h16 := (wellFormed_isPrefix h.wellFormed).1
  rw [← List.length_pos_iff_exists_cons, List.length_append, List.length_append]
  omega

/-- A search in long garbage gives up and has taken 1028 bytes. -/
theorem Behind.scan_long (h : Behind build garbage packet) (hlong : 1024 ≤ garbage.length)
    {b : UInt8} {bytes : Bytes} (hcons : garbage ++ (packet ++ rest) = b :: bytes) :
    (scanForPrefix b).run (r.rest bytes) = (.ok none, r.rest ((b :: bytes).drop 1028)) := by
  have h16 := (wellFormed_isPrefix h.wellFormed).1
  have hclean : Clean 1024 (b :: bytes) := by
    rw [← hcons, ← List.append_assoc]
    refine clean_append (clean_mono h.clean hlong) ?_ rest
    rw [List.length_append]
    omega
  refine scanForPrefix_misses ?_ hclean
  rw [← hcons, List.length_append, List.length_append]
  omega

theorem Behind.giveUp_long (h : Behind build garbage packet) (hlong : 1024 ≤ garbage.length)
    (received : Int32) (r : Reader) (rest : Bytes) :
    giveUp build (received, r.rest (garbage ++ (packet ++ rest)))
      = (nextCount build received).map
          (·, r.rest ((garbage ++ (packet ++ rest)).drop 1028)) := by
  obtain ⟨b, bytes, hcons⟩ := h.exists_cons rest
  have hscan := h.scan_long (r := r) hlong hcons
  rw [hcons]
  simp only [giveUp, rest_bytes, rest_rest, hscan]

theorem Behind.nextPacket_long (h : Behind build garbage packet) (hlong : 1024 ≤ garbage.length)
    {b : UInt8} {bytes : Bytes} (hcons : garbage ++ (packet ++ rest) = b :: bytes) :
    ((nextPacket build b).run (r.rest bytes)).1 = .ok none := by
  rw [nextPacket, Program.run_bind_ok (h.scan_long hlong hcons)]
  rfl

theorem Behind.nextPacket_short (h : Behind build garbage packet) (hshort : garbage.length ≤ 1023)
    {b : UInt8} {bytes : Bytes} (hcons : garbage ++ (packet ++ rest) = b :: bytes) :
    ∃ header, (nextPacket build b).run (r.rest bytes)
      = (.ok (some (packet, header)), r.rest rest) := by
  obtain ⟨h16, hword⟩ := wellFormed_isPrefix h.wellFormed
  have hscan := run_scanForPrefix (r := r) h16 hword hcons.symm hshort h.clean
  have h12 : ((packet.drop 4).take 12).length = 12 := by
    rw [List.length_take, List.length_drop]; omega
  have hsplit : packet.drop 4 ++ rest = (packet.drop 4).take 12 ++ (packet.drop 16 ++ rest) := by
    have hdrop : (packet.drop 4).drop 12 = packet.drop 16 := List.drop_drop
    rw [← List.append_assoc, ← hdrop, List.take_append_drop]
  have hhead : packet.take 4 ++ (packet.drop 4).take 12 = packet.take 16 :=
    (List.take_add (i := 4) (j := 12)).symm
  obtain ⟨header, -, hread⟩ := run_readFullPacket (r := r) h.wellFormed rest
  refine ⟨header, ?_⟩
  rw [nextPacket, Program.run_bind_ok hscan]
  dsimp only
  rw [hsplit, Program.run_bind_ok (run_readExact h12 _), hhead, Program.run_bind_ok hread]
  rfl

theorem Behind.giveUp_short (h : Behind build garbage packet) (hshort : garbage.length ≤ 1023)
    (received : Int32) (r : Reader) (rest : Bytes) :
    giveUp build (received, r.rest (garbage ++ (packet ++ rest))) = none := by
  obtain ⟨h16, hword⟩ := wellFormed_isPrefix h.wellFormed
  obtain ⟨b, bytes, hcons⟩ := h.exists_cons rest
  have hscan := run_scanForPrefix (r := r) h16 hword hcons.symm hshort h.clean
  rw [hcons]
  simp only [giveUp, rest_bytes, rest_rest, hscan]

theorem Behind.drop (h : Behind build garbage packet) :
    Behind build (garbage.drop 1028) packet := by
  refine ⟨h.wellFormed, ?_⟩
  by_cases hlong : 1028 ≤ garbage.length
  · have hclean := clean_drop 1028 h.clean
    rw [List.drop_append_of_le_length hlong] at hclean
    rwa [List.length_drop]
  · rw [List.drop_eq_nil_of_le (by omega)]
    exact fun k hk => absurd hk (Nat.not_lt_zero k)

/-- By induction on the rounds: a reader that gives up without touching the packet and then
finds it has met less than 1024 bytes of garbage in the end. -/
theorem Behind.found_after {n : Nat} {count : Int32} {r' : Reader} {b : UInt8} {bytes : Bytes}
    {header : TuyaHeader} (h : Behind build garbage packet)
    (hspared : ∀ k x, giveUps build k (received, r.rest (garbage ++ (packet ++ rest))) = some x →
      packet ++ rest <:+ x.2.stream.bytes)
    (hgive : giveUps build n (received, r.rest (garbage ++ (packet ++ rest))) = some (count, r'))
    (hcons : r'.stream.bytes = b :: bytes)
    (hfound : ((nextPacket build b).run (r'.rest bytes)).1 = .ok (some (packet, header))) :
    garbage.length % 1028 < 1024 ∧
      (build.overflowChecks = true → received.toInt + (garbage.length / 1028 : Nat) < 2 ^ 31) := by
  induction n generalizing garbage received with
  | zero =>
    have hcount := received.toInt_lt
    cases hgive
    by_cases hlong : 1024 ≤ garbage.length
    · rw [rest_rest, h.nextPacket_long hlong hcons] at hfound
      cases hfound
    · have hzero : garbage.length / 1028 = 0 := by omega
      refine ⟨by omega, fun _ => ?_⟩
      rw [hzero]
      omega
  | succ n ih =>
    obtain ⟨y, hy, hrest⟩ := Option.bind_eq_some_iff.mp hgive
    have hlong : 1024 ≤ garbage.length := by
      by_contra hshort
      rw [h.giveUp_short (by omega)] at hy
      cases hy
    -- The round has spared the packet, so there were 1028 bytes of garbage.
    have hsuffix := hspared 1 y (by rw [giveUps, hy]; rfl)
    have hstep := hy
    rw [h.giveUp_long hlong] at hstep
    obtain ⟨m, hm, rfl⟩ := Option.map_eq_some_iff.mp hstep
    have hroom : 1028 ≤ garbage.length := by
      have h16 := (wellFormed_isPrefix h.wellFormed).1
      have hle := hsuffix.length_le
      simp only [rest_bytes, List.length_drop, List.length_append] at hle
      omega
    rw [List.drop_append_of_le_length hroom] at hrest hy
    have hspared' : ∀ k x,
        giveUps build k (m, r.rest (garbage.drop 1028 ++ (packet ++ rest))) = some x →
          packet ++ rest <:+ x.2.stream.bytes := by
      intro k x hk
      exact hspared (k + 1) x (by rw [giveUps, hy]; exact hk)
    obtain ⟨hmod, hcount⟩ := ih h.drop hspared' hrest
    rw [List.length_drop] at hmod hcount
    refine ⟨by omega, fun hc => ?_⟩
    have hlimit := hcount hc
    obtain ⟨-, hnext⟩ := nextCount_eq_some hm hc
    have hquotient : garbage.length / 1028 = (garbage.length - 1028) / 1028 + 1 := by omega
    rw [hquotient]
    omega

theorem Behind.spared (h : Behind build garbage packet) (hmod : garbage.length % 1028 < 1024)
    {n : Nat} {x : Int32 × Reader}
    (hgive : giveUps build n (received, r.rest (garbage ++ (packet ++ rest))) = some x) :
    packet ++ rest <:+ x.2.stream.bytes := by
  induction n generalizing garbage received with
  | zero =>
    cases hgive
    exact List.suffix_append _ _
  | succ n ih =>
    obtain ⟨y, hy, hrest⟩ := Option.bind_eq_some_iff.mp hgive
    by_cases hshort : garbage.length ≤ 1023
    · rw [h.giveUp_short hshort] at hy
      cases hy
    · rw [h.giveUp_long (by omega)] at hy
      obtain ⟨m, -, rfl⟩ := Option.map_eq_some_iff.mp hy
      rw [List.drop_append_of_le_length (by omega)] at hrest
      exact ih h.drop (by rw [List.length_drop]; omega) hrest

theorem Behind.reached (h : Behind build garbage packet) (received : Int32) (r : Reader)
    (rest : Bytes) (hmod : garbage.length % 1028 < 1024)
    (hcount : build.overflowChecks = true →
      received.toInt + (garbage.length / 1028 : Nat) < 2 ^ 31) :
    ∃ n count g, g.length ≤ 1023 ∧ Behind build g packet ∧
      giveUps build n (received, r.rest (garbage ++ (packet ++ rest)))
        = some (count, r.rest (g ++ (packet ++ rest))) := by
  induction hq : garbage.length / 1028 generalizing garbage received with
  | zero => exact ⟨0, received, garbage, by omega, h, rfl⟩
  | succ q ih =>
    have hnext : nextCount build received = some (received + 1) := by
      apply nextCount_ok
      intro hc
      have := hcount hc
      omega
    have hlength : (garbage.drop 1028).length = garbage.length - 1028 := List.length_drop
    obtain ⟨n, count, g, hshort, hbehind, hgive⟩ := ih h.drop (received + 1)
      (by omega) (by
        intro hc
        obtain ⟨-, hsucc⟩ := nextCount_eq_some hnext hc
        have hlimit := hcount hc
        have hquotient : (garbage.drop 1028).length / 1028 + 1 = garbage.length / 1028 := by omega
        omega) (by omega)
    refine ⟨n + 1, count, g, hshort, hbehind, ?_⟩
    rw [giveUps, h.giveUp_long (by omega), hnext, List.drop_append_of_le_length (by omega)]
    exact hgive

/-- For garbage of any length before a packet, any bytes after it and any reader: the loop
gets to the packet if and only if the length of the garbage leaves less than 1024 on division
by the 1028 bytes that a search takes when it gives up. A build with overflow checks also has
to be able to count the rounds. -/
theorem resynchronises_iff (h : Behind build garbage packet) (received : Int32) (r : Reader)
    (rest : Bytes) :
    Resynchronises build received (r.rest (garbage ++ (packet ++ rest))) packet rest ↔
      garbage.length % 1028 < 1024 ∧
        (build.overflowChecks = true →
          received.toInt + (garbage.length / 1028 : Nat) < 2 ^ 31) := by
  constructor
  · rintro ⟨hspared, n, count, r', b, bytes, header, hgive, hcons, hfound, -⟩
    exact h.found_after hspared hgive hcons (congrArg Prod.fst hfound)
  · rintro ⟨hmod, hcount⟩
    refine ⟨fun n x hgive => h.spared hmod hgive, ?_⟩
    obtain ⟨n, count, g, hshort, hbehind, hgive⟩ := h.reached received r rest hmod hcount
    obtain ⟨b, bytes, hcons⟩ := hbehind.exists_cons rest
    obtain ⟨header, hfound⟩ := hbehind.nextPacket_short (r := r) hshort hcons
    refine ⟨n, count, r.rest (g ++ (packet ++ rest)), b, bytes, header, hgive, hcons, hfound, ?_⟩
    intro C S device
    refine ⟨readerLoop_giveUps C S build device hgive, ?_⟩
    rw [processSocketData_stream, rest_rest, hfound]
    rfl

def noise (n : Nat) : Bytes := List.replicate n 0xff

theorem length_noise (n : Nat) : (noise n).length = n := List.length_replicate

theorem clean_noise (n : Nat) (tail : Bytes) : Clean n (noise n ++ tail) := by
  intro k hk
  have hfirst : ∀ bytes : Bytes, ¬ IsPrefix (readU32 (0xff :: bytes)) := by
    intro bytes
    match bytes with
    | [] | [_] | [_, _] =>
      change ¬ IsPrefix 0
      decide
    | b :: c :: d :: more =>
      have hb := b.toNat_lt
      have hc := c.toNat_lt
      have hd := d.toNat_lt
      have hff : (0xff : UInt8).toNat = 255 := rfl
      have hread : (readU32 (0xff :: b :: c :: d :: more)).toNat
          = 255 * 2 ^ 24 + b.toNat * 2 ^ 16 + c.toNat * 2 ^ 8 + d.toNat := by
        rw [readU32, UInt32.toNat_ofNat', hff]
        omega
      have h55 : prefix55aa.toNat = 0x55aa := rfl
      have h66 : prefix6699.toNat = 0x6699 := rfl
      rintro (hword | hword)
      · rw [hword] at hread
        omega
      · rw [hword] at hread
        omega
  have hdrop : (noise n ++ tail).drop k = 0xff :: (List.replicate (n - k - 1) 0xff ++ tail) := by
    rw [List.drop_append_of_le_length (by rw [length_noise]; omega), noise,
      List.drop_replicate]
    obtain ⟨m, hm⟩ : ∃ m, n - k = m + 1 := ⟨n - k - 1, by omega⟩
    rw [hm, List.replicate_succ]
    rfl
  rw [hdrop]
  exact hfirst _

theorem ack_behind_noise (n : Nat) : Behind .release (noise n) heartbeatAck := by
  refine ⟨⟨⟨fun _ _ => by decide, fun _ h => absurd h (by decide)⟩, ⟨_, rfl, by decide⟩,
    fun _ h => absurd h (by decide)⟩, ?_⟩
  rw [length_noise]
  exact clean_noise n heartbeatAck

theorem ack_after_1030_bytes :
    Behind .release (noise 1030) heartbeatAck ∧
      Resynchronises .release 0 (sampleReader.rest (noise 1030 ++ (heartbeatAck ++ [])))
        heartbeatAck [] :=
  ⟨ack_behind_noise 1030, (resynchronises_iff (ack_behind_noise 1030) 0 sampleReader []).mpr
    ⟨by rw [length_noise]; decide, fun h => by cases h⟩⟩

/-- Behind 1024 bytes the search gives up with the prefix of the packet, which is lost. -/
theorem ack_after_1024_bytes_lost :
    Behind .release (noise 1024) heartbeatAck ∧
      giveUps .release 1 (0, sampleReader.rest (noise 1024 ++ (heartbeatAck ++ [])))
        = some (1, sampleReader.rest (heartbeatAck.drop 4)) ∧
      ¬ Resynchronises .release 0 (sampleReader.rest (noise 1024 ++ (heartbeatAck ++ [])))
        heartbeatAck [] := by
  have hgive : giveUps .release 1 (0, sampleReader.rest (noise 1024 ++ (heartbeatAck ++ [])))
      = some (1, sampleReader.rest (heartbeatAck.drop 4)) := by
    have hdrop : (noise 1024 ++ (heartbeatAck ++ [])).drop 1028 = heartbeatAck.drop 4 := by
      have hnoise : (noise 1024 ++ heartbeatAck).drop 1024 = heartbeatAck :=
        List.drop_left' (length_noise 1024)
      have hfour : ((noise 1024 ++ heartbeatAck).drop 1024).drop 4
          = (noise 1024 ++ heartbeatAck).drop 1028 := List.drop_drop
      rw [List.append_nil, ← hfour, hnoise]
    rw [giveUps, (ack_behind_noise 1024).giveUp_long (by rw [length_noise]), hdrop]
    rfl
  refine ⟨ack_behind_noise 1024, hgive, ?_⟩
  intro h
  have hle := (h.spared 1 _ hgive).length_le
  revert hle
  decide

end Resynchronisation

end StreamRecovery
