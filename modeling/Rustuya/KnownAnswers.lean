import Rustuya.Base64
import Rustuya.Crypto
import Rustuya.Json
import Mathlib.Logic.Equiv.Basic
import Mathlib.Algebra.Group.End

/-!
# Known answers of the primitives

A concrete choice of the primitives that satisfies every law stated about them. The
checksum and the base-64 alphabet are computed. The keyed functions return the values of
AES-128, HMAC-SHA-256 and AES-128-GCM on the listed inputs, and are extended to all other
inputs in the simplest way the laws allow.
-/
namespace KnownAnswers

open ByteCodec Crypto

def number (n x : Nat) : U8Array n :=
  ⟨(List.range n).map (fun i => UInt8.ofNat (x / 256 ^ (n - 1 - i))), by simp⟩

abbrev block (x : Nat) : U8Array 16 := number 16 x

def crcBit (c : UInt32) : UInt32 :=
  if c &&& 1 = 1 then (c >>> 1) ^^^ 0xEDB88320 else c >>> 1

def crcByte (c : UInt32) (b : UInt8) : UInt32 :=
  Nat.repeat crcBit 8 (c ^^^ b.toUInt32)

def crc32 (data : Bytes) : UInt32 := data.foldl crcByte 0xFFFFFFFF ^^^ 0xFFFFFFFF

def sampleKey : Key := ⟨utf8 "localkey000de7f4", by decide⟩
def localNonce : U8Array 16 := ⟨utf8 "local-nonce-0001", by decide⟩
def remoteNonce : U8Array 16 := ⟨utf8 "remote-nonce-001", by decide⟩
def versionLikeNonce : U8Array 16 := ⟨utf8 "3.4-remote-nonce", by decide⟩
def sessionKey : Key := block 0x2c14fc3e2cfeab84a495bc389c42a788
def sampleIv : U8Array 12 := ⟨utf8 "nonce-000001", by decide⟩

def samplePayload : Bytes := utf8 "\x7b\"t\":1\x7d"

def aesTable : List (U8Array 16 × U8Array 16) := [
  (block 0x7b226465764964223a22626630313233, block 0x332e33eafe67ad0c64c6915189e16a5c),
  (block 0x222c2267774964223a22626630313233, block 0xba7ae30d86dd43eb13c31def9f53a9d2),
  (block 0x227d0e0e0e0e0e0e0e0e0e0e0e0e0e0e, block 0x57e3839a7b1b12e8e950dfcf4c888725),
  (block 0x7b2274223a317d090909090909090909, block 0x92c0309f726b19e676ed7915911d3d8c),
  (block 0x72656d6f74652d6e6f6e63652d303031, block 0x9848b3b7627a18e380e5c4ad5f71a2f5),
  (block 0xaebfb67af6e27e2ccb0bfa11111350e9, block 0x46ba298067d2891c9e55f0b1dbb1527b),
  (block 0xa4eecd5f0b86594ef58ea8c325e91da5, block 0xee92145f96ca034f26acf323e2cbe712),
  (block 0x10101010101010101010101010101010, block 0x9a1426e3776139d05bb57dcf98a381ec),
  (block 0x332e342d72656d6f74652d6e6f6e6365, block 0xdc4f2c3c7ce3f664a09a1c49f011665e),
  (block 0x1e0a0e0e18484301010d06481d000000, block 0x2c14fc3e2cfeab84a495bc389c42a788),
  (block 0x6c6f63616c2d6e6f6e63652d30303031, block 0xbfc0060f5ae16562674cc4c094829854),
  (block 0x8083ae6d4077d66bf172848beec44038, block 0x1fcdc75463545cd362d31520225e3e8f),
  (block 0x0cddfb2f9f4239c59bd2d9af2ce17ab5, block 0xb78936ab19797a8895ef29f2408735bc)]

def sessionAesTable : List (U8Array 16 × U8Array 16) := [
  (block 0x7b226465764964223a22626630313233, block 0x178bf0e8d5ff5e677c8509e469d04798),
  (block 0x222c2267774964223a22626630313233, block 0x4229953affe1c0791f8475db34ac24fe),
  (block 0x222c2274223a22313730303030303030, block 0x4c48881fd3f0edf803206132b2a73269),
  (block 0x30222c22756964223a22626630313233, block 0x901708183548f2bf46a338c44d0b2670),
  (block 0x227d0e0e0e0e0e0e0e0e0e0e0e0e0e0e, block 0x27509222d7bfd8be41e09ff317227826)]

/-- Exchanging plain and cipher blocks is a permutation, as a block cipher is. -/
def exchange (table : List (U8Array 16 × U8Array 16)) : Equiv.Perm (U8Array 16) :=
  (table.map (fun e => Equiv.swap e.1 e.2)).prod

def aesPerm (key : Key) : Equiv.Perm (U8Array 16) :=
  if key = sampleKey then exchange aesTable
  else if key = sessionKey then exchange sessionAesTable
  else 1

def hmacTable : List ((Bytes × Bytes) × U8Array 32) := [
  ((sampleKey.val, localNonce.val),
    number 32 0xaebfb67af6e27e2ccb0bfa11111350e9a4eecd5f0b86594ef58ea8c325e91da5),
  ((sampleKey.val, remoteNonce.val),
    number 32 0x8083ae6d4077d66bf172848beec440380cddfb2f9f4239c59bd2d9af2ce17ab5),
  ((sampleKey.val, (number 23 0x000055aa000000010000000d0000002b7b2274223a317d).val),
    number 32 0xcfbae43113048bb8f6ed26e2f1380ca7978fcb012af6fe493627a859efaca335),
  ((sampleKey.val, (number 84 (0x000055aa00000001000000040000006800000000 * 256 ^ 64 +
      0x9848b3b7627a18e380e5c4ad5f71a2f546ba298067d2891c9e55f0b1dbb1527b * 256 ^ 32 +
      0xee92145f96ca034f26acf323e2cbe7129a1426e3776139d05bb57dcf98a381ec)).val),
    number 32 0x8d45ccd2b52d323fb9790a7da6077ff2d568113d3e49f29b5e846b8b8edff3d9),
  ((sampleKey.val, (number 84 (0x000055aa00000001000000040000006800000000 * 256 ^ 64 +
      0xdc4f2c3c7ce3f664a09a1c49f011665e46ba298067d2891c9e55f0b1dbb1527b * 256 ^ 32 +
      0xee92145f96ca034f26acf323e2cbe7129a1426e3776139d05bb57dcf98a381ec)).val),
    number 32 0x946bc20acf805dda2197a39f85ab9ff7c25a5e3b5fe7d00ce08bbf2c4677531b),
  ((sampleKey.val, (number 48 (0x000055aa000000010000000300000044 * 256 ^ 32 +
      0xbfc0060f5ae16562674cc4c0948298549a1426e3776139d05bb57dcf98a381ec)).val),
    number 32 0xf49ee5b144cc639e0422d25d1df06c399fa298c4a01f918a5de601ea2db66179),
  ((sampleKey.val, (number 64 (0x000055aa000000020000000500000054 * 256 ^ 48 +
      0x1fcdc75463545cd362d31520225e3e8f * 256 ^ 32 +
      0xb78936ab19797a8895ef29f2408735bc9a1426e3776139d05bb57dcf98a381ec)).val),
    number 32 0x593c7ead4004da5e483ea0d8f27d5bc32f27ce8f960277e1f8db2999c6193355),
  ((sessionKey.val, (number 96 (0x000055aa000000030000000300000074 * 256 ^ 80 +
      0x178bf0e8d5ff5e677c8509e469d04798 * 256 ^ 64 +
      0x4229953affe1c0791f8475db34ac24fe4c48881fd3f0edf803206132b2a73269 * 256 ^ 32 +
      0x901708183548f2bf46a338c44d0b267027509222d7bfd8be41e09ff317227826)).val),
    number 32 0xe60338c5c81569c6833f1c110a50a0fe4dadd7d5e0ff84debdfbbc558e13a040),
  ((sessionKey.val, (number 64 (0x000055aa000000030000000900000054 * 256 ^ 48 +
      0x178bf0e8d5ff5e677c8509e469d04798 * 256 ^ 32 +
      0x4229953affe1c0791f8475db34ac24fe27509222d7bfd8be41e09ff317227826)).val),
    number 32 0x676643641a7b6b8b68ab2fa240d24fea57364653483af8b688aa15fb90e51d33)]

structure GcmAnswer where
  nonce : Bytes
  aad : Bytes
  msg : Bytes
  ciphertext : Bytes
  deriving DecidableEq

def gcmTable : List GcmAnswer := [
  { nonce := sampleIv.val, aad := (number 14 0x0000000000010000000d00000023).val,
    msg := samplePayload,
    ciphertext := (number 23 0x2d028fe646033281421b2dda6d13333968742504da2b29).val }]

def zeroTag : Bytes := List.replicate 16 0

/-- A message that is not in the table is sealed with an empty tag. -/
def gcmEncrypt (key : Key) (nonce : U8Array 12) (aad msg : Bytes) : Option Bytes :=
  if key = sampleKey then
    match gcmTable.find? (fun e => e.nonce = nonce.val ∧ e.aad = aad ∧ e.msg = msg) with
    | some e => some e.ciphertext
    | none => some (msg ++ zeroTag)
  else some (msg ++ zeroTag)

def openZeroTag (c : Bytes) : Option Bytes :=
  if zeroTag <:+ c then some (c.take (c.length - 16)) else none

def gcmDecrypt (key : Key) (nonce : U8Array 12) (aad c : Bytes) : Option Bytes :=
  if key = sampleKey then
    match gcmTable.find? (fun e => e.nonce = nonce.val ∧ e.aad = aad ∧ e.ciphertext = c) with
    | some e => some e.msg
    | none => openZeroTag c
  else openZeroTag c

def crates : Crates where
  crc32 := crc32
  hmacSha256 key msg := (hmacTable.lookup (key, msg)).getD (number 32 0)
  md5 _ := number 16 0
  aesEncryptBlock key := aesPerm key
  aesDecryptBlock key := (aesPerm key).symm
  gcmEncrypt := gcmEncrypt
  gcmDecrypt := gcmDecrypt
  base64Encode := Base64.encode
  base64Decode := Base64.decode

theorem blockLaw : crates.BlockLaw := fun key b => (aesPerm key).symm_apply_apply b

theorem base64Law : crates.Base64Law :=
  fun data => ⟨Base64.decode_encode data, Base64.length_encode data⟩

theorem openZeroTag_append (msg : Bytes) : openZeroTag (msg ++ zeroTag) = some msg := by
  have hl : (msg ++ zeroTag).length - 16 = msg.length := by simp [zeroTag]
  rw [openZeroTag, if_pos (List.suffix_append msg zeroTag), hl, List.take_left' rfl]

theorem gcmTable_wellFormed :
    (∀ e ∈ gcmTable, e.ciphertext.length = e.msg.length + 16 ∧ ¬ zeroTag <:+ e.ciphertext) ∧
      ∀ e ∈ gcmTable, ∀ f ∈ gcmTable, e.nonce = f.nonce → e.aad = f.aad → e = f := by
  decide

theorem gcmDecrypt_gcmEncrypt (key : Key) (nonce : U8Array 12) (aad msg : Bytes) :
    ∃ c, gcmEncrypt key nonce aad msg = some c ∧ c.length = msg.length + 16 ∧
      gcmDecrypt key nonce aad c = some msg := by
  by_cases hk : key = sampleKey
  swap
  · refine ⟨msg ++ zeroTag, by rw [gcmEncrypt, if_neg hk], by simp [zeroTag], ?_⟩
    rw [gcmDecrypt, if_neg hk, openZeroTag_append]
  simp only [gcmEncrypt, gcmDecrypt, if_pos hk]
  cases hs : gcmTable.find? (fun e => e.nonce = nonce.val ∧ e.aad = aad ∧ e.msg = msg) with
  | some e =>
    have hm := List.mem_of_find?_eq_some hs
    have he : e.nonce = nonce.val ∧ e.aad = aad ∧ e.msg = msg := by
      simpa using List.find?_some hs
    refine ⟨e.ciphertext, rfl, by rw [(gcmTable_wellFormed.1 e hm).1, he.2.2], ?_⟩
    cases ho : gcmTable.find?
        (fun f => f.nonce = nonce.val ∧ f.aad = aad ∧ f.ciphertext = e.ciphertext) with
    | none =>
      have hn := List.find?_eq_none.mp ho e hm
      simp [he.1, he.2.1] at hn
    | some f =>
      have hf : f.nonce = nonce.val ∧ f.aad = aad ∧ f.ciphertext = e.ciphertext := by
        simpa using List.find?_some ho
      have hef := gcmTable_wellFormed.2 e hm f (List.mem_of_find?_eq_some ho)
        (he.1.trans hf.1.symm) (he.2.1.trans hf.2.1.symm)
      rw [← hef]
      exact congrArg some he.2.2
  | none =>
    refine ⟨msg ++ zeroTag, rfl, by simp [zeroTag], ?_⟩
    cases ho : gcmTable.find?
        (fun f => f.nonce = nonce.val ∧ f.aad = aad ∧ f.ciphertext = msg ++ zeroTag) with
    | none => exact openZeroTag_append msg
    | some f =>
      have hf : f.nonce = nonce.val ∧ f.aad = aad ∧ f.ciphertext = msg ++ zeroTag := by
        simpa using List.find?_some ho
      have ht := (gcmTable_wellFormed.1 f (List.mem_of_find?_eq_some ho)).2
      exact (ht (hf.2.2 ▸ List.suffix_append msg zeroTag)).elim

theorem gcmLaw : crates.GcmLaw :=
  fun key nonce aad msg _ _ => gcmDecrypt_gcmEncrypt key nonce aad msg

/-- The same primitives, with a decryption that opens nothing but what was sealed. -/
def strictCrates : Crates :=
  { crates with
    gcmDecrypt := fun key nonce aad c =>
      (gcmDecrypt key nonce aad c).filter fun msg => gcmEncrypt key nonce aad msg = some c }

theorem gcmExact : strictCrates.GcmExact := by
  constructor
  · intro key nonce aad msg c
    constructor
    · intro h
      exact of_decide_eq_true (Option.filter_eq_some_iff.mp h).2
    · intro h
      obtain ⟨c', hsealed, -, hopened⟩ := gcmDecrypt_gcmEncrypt key nonce aad msg
      obtain rfl : c' = c := Option.some.inj (hsealed.symm.trans h)
      exact Option.filter_eq_some_iff.mpr ⟨hopened, decide_eq_true hsealed⟩
  · intro key nonce aad msg c h
    obtain ⟨c', hsealed, hlength, -⟩ := gcmDecrypt_gcmEncrypt key nonce aad msg
    obtain rfl : c' = c := Option.some.inj (hsealed.symm.trans h)
    exact hlength

section JsonText

open Json

def escapeChar (c : Char) : Bytes :=
  if c = '"' then utf8 "\\\""
  else if c = '\\' then utf8 "\\\\"
  else if c = '\n' then utf8 "\\n"
  else if c = '\r' then utf8 "\\r"
  else if c = '\t' then utf8 "\\t"
  else if c.toNat = 8 then utf8 "\\b"
  else if c.toNat = 12 then utf8 "\\f"
  else if c.toNat < 32 then
    utf8 "\\u00" ++ String.utf8EncodeChar (Nat.digitChar (c.toNat / 16)) ++
      String.utf8EncodeChar (Nat.digitChar (c.toNat % 16))
  else String.utf8EncodeChar c

def renderString (s : String) : Bytes := 0x22 :: (s.toList.flatMap escapeChar ++ [0x22])

def renderNat (n : Nat) : Bytes := (Nat.toDigits 10 n).map (fun c => UInt8.ofNat c.toNat)

/-- Numbers with a fraction are not in the table and are all written alike. -/
def renderNumber : Number → Bytes
  | .posInt n => renderNat n.toNat
  | .negInt n => 0x2d :: renderNat n.toInt.natAbs
  | .float _ => utf8 "0.0"

mutual

def render : Value → Bytes
  | .null => utf8 "null"
  | .bool true => utf8 "true"
  | .bool false => utf8 "false"
  | .number n => renderNumber n
  | .string s => renderString s
  | .array items => 0x5b :: (renderItems items ++ [0x5d])
  | .object fields => 0x7b :: (renderFields fields ++ [0x7d])

def renderItems : List Value → Bytes
  | [] => []
  | [v] => render v
  | v :: rest => render v ++ 0x2c :: renderItems rest

def renderFields : List (String × Value) → Bytes
  | [] => []
  | [(k, v)] => renderString k ++ 0x3a :: render v
  | (k, v) :: rest => renderString k ++ 0x3a :: render v ++ 0x2c :: renderFields rest

end

def opensJson (text : Bytes) : Bool :=
  text.head?.any fun b =>
    (decide (0x30 ≤ b) && decide (b ≤ 0x39)) ||
      [0x2d, 0x22, 0x5b, 0x7b, 0x6e, 0x74, 0x66].contains b

/-- The writer, and a parser that returns the known values and otherwise only looks at
how the text begins. -/
def json (known : List Value) : Codec where
  toVec := render
  fromSlice text :=
    match known.find? (fun v => render v = text) with
    | some v => some v
    | none => if opensJson text then some .null else none

theorem opensJson_renderNat (n : Nat) : opensJson (renderNat n) = true := by
  cases hd : Nat.toDigits 10 n with
  | nil => exact (Nat.toDigits_ne_nil hd).elim
  | cons c rest =>
    have hc : c.isDigit = true :=
      Nat.isDigit_of_mem_toDigits (by decide) (by decide) (hd ▸ List.mem_cons_self)
    have hrange : 48 ≤ c.toNat ∧ c.toNat ≤ 57 := by
      simpa [Char.isDigit, UInt32.le_iff_toNat_le] using hc
    have hb : (UInt8.ofNat c.toNat).toNat = c.toNat := by
      rw [UInt8.toNat_ofNat', Nat.mod_eq_of_lt (by omega)]
    have hlow : (0x30 : UInt8) ≤ UInt8.ofNat c.toNat := by
      rw [UInt8.le_iff_toNat_le, hb]
      exact hrange.1
    have hhigh : UInt8.ofNat c.toNat ≤ 0x39 := by
      rw [UInt8.le_iff_toNat_le, hb]
      exact hrange.2
    simp [renderNat, hd, opensJson, hlow, hhigh]

theorem opensJson_render (v : Value) : opensJson (render v) = true := by
  cases v with
  | null => rw [render]; decide
  | bool b => cases b <;> rw [render] <;> decide
  | number n =>
    rw [render]
    cases n with
    | posInt n => exact opensJson_renderNat _
    | negInt n => rfl
    | float bits => rw [renderNumber]; decide
  | string s => rw [render]; rfl
  | array items => rw [render]; rfl
  | object fields => rw [render]; rfl

theorem json_accepts (known : List Value) : (json known).Accepts := by
  intro v _
  change (match known.find? (fun w => render w = render v) with
    | some w => some w
    | none => if opensJson (render v) then some Value.null else none).isSome
  rw [if_pos (opensJson_render v)]
  split <;> rfl

theorem json_writes (known : List Value) : (json known).Writes := by
  intro v hnil
  have hopens := opensJson_render v
  rw [show render v = [] from hnil] at hopens
  cases hopens

end JsonText

end KnownAnswers
