import Rustuya.BlockMode
import Rustuya.Error

/-!
# The cipher of one key

AES-128 in electronic-codebook mode with byte padding, or in Galois/counter mode
when a nonce is given. The primitives come from other crates and are parameters
here; what is used of them is stated as separate laws.
-/
namespace Crypto

open CheckedExecution ByteCodec BlockMode Error

abbrev Key := U8Array 16

/-- The cryptographic primitives the crate calls. A block function acts on one
16-byte block; the authenticated mode takes key, nonce, associated data and text. -/
structure Crates where
  crc32 : Bytes → UInt32
  hmacSha256 : Bytes → Bytes → U8Array 32
  md5 : Bytes → U8Array 16
  aesEncryptBlock : Key → U8Array 16 → U8Array 16
  aesDecryptBlock : Key → U8Array 16 → U8Array 16
  gcmEncrypt : Key → U8Array 12 → Bytes → Bytes → Option Bytes
  gcmDecrypt : Key → U8Array 12 → Bytes → Bytes → Option Bytes
  base64Encode : Bytes → Bytes
  base64Decode : Bytes → Option Bytes

/-- Block decryption inverts block encryption, key by key. -/
def Crates.BlockLaw (C : Crates) : Prop :=
  ∀ key block, C.aesDecryptBlock key (C.aesEncryptBlock key block) = block

/-- Messages of fewer than `2 ^ 32` bytes are encrypted, the ciphertext is 16 tag
bytes longer, and decryption with the same key, nonce and data inverts it. -/
def Crates.GcmLaw (C : Crates) : Prop :=
  ∀ key nonce aad msg, msg.length < 2 ^ 32 → aad.length < 2 ^ 32 →
    ∃ c, C.gcmEncrypt key nonce aad msg = some c ∧ c.length = msg.length + 16 ∧
      C.gcmDecrypt key nonce aad c = some msg

/-- Decryption accepts just what encryption produces, under the same key, nonce and data, and
the tag takes 16 bytes. -/
structure Crates.GcmExact (C : Crates) : Prop where
  inverse : ∀ key nonce aad msg c,
    C.gcmDecrypt key nonce aad c = some msg ↔ C.gcmEncrypt key nonce aad msg = some c
  length : ∀ key nonce aad msg c,
    C.gcmEncrypt key nonce aad msg = some c → c.length = msg.length + 16

def Crates.Base64Law (C : Crates) : Prop :=
  ∀ data, C.base64Decode (C.base64Encode data) = some data ∧
    (C.base64Encode data).length = 4 * ((data.length + 2) / 3)

structure TuyaCipher where
  key : Key
  deriving DecidableEq

def TuyaCipher.new (key : Bytes) : Result TuyaCipher :=
  if h : key.length = 16 then .ok ⟨⟨key, h⟩⟩ else .err .encryptionFailed

/-- A full extra block is added to data that already fills its last block. -/
def pad (data : Bytes) : Bytes :=
  let paddingLen := 16 - data.length % 16
  data ++ List.replicate paddingLen (UInt8.ofNat paddingLen)

def ecb (f : U8Array 16 → U8Array 16) (data : Bytes) : Bytes :=
  mapBlocks 16 (onBlock f) (data.length / 16) data

def unpad (plaintext : Bytes) : Result Bytes :=
  if plaintext.isEmpty then .ok plaintext
  else do
    let last ← index plaintext (plaintext.length - 1)
    let padLen := last.toNat
    if padLen = 0 ∨ 16 < padLen ∨ plaintext.length < padLen then
      .err .decryptionFailed
    else if (List.range padLen).any
        (fun i => plaintext[plaintext.length - 1 - i]? != some last) then
      .err .decryptionFailed
    else
      .ok (plaintext.take (plaintext.length - padLen))

section Methods

variable (C : Crates) (cipher : TuyaCipher)

def TuyaCipher.encrypt (data : Bytes) (useBase64 : Bool) (iv header : Option Bytes)
    (padding : Bool) : Result Bytes := do
  let encryptedBytes ← match iv with
    | some ivBytes => do
      let nonce ← slice ivBytes 0 12
      if h : nonce.length = 12 then
        let ciphertext ← Outcome.okOr .encryptionFailed
          (C.gcmEncrypt cipher.key ⟨nonce, h⟩ (header.getD []) data)
        .ok (ivBytes ++ ciphertext)
      else .panic
    | none =>
      if padding then .ok (ecb (C.aesEncryptBlock cipher.key) (pad data))
      else if data.length % 16 ≠ 0 then .err .encryptionFailed
      else .ok (ecb (C.aesEncryptBlock cipher.key) data)
  if useBase64 then .ok (C.base64Encode encryptedBytes) else .ok encryptedBytes

def TuyaCipher.decrypt (data : Bytes) (useBase64 : Bool) (iv header : Option Bytes) :
    Result Bytes := do
  let inputData ←
    if useBase64 then Outcome.okOr .decryptionFailed (C.base64Decode data) else .ok data
  match iv with
  | some ivBytes => do
    let nonce ← slice ivBytes 0 12
    if h : nonce.length = 12 then
      Outcome.okOr .decryptionFailed
        (C.gcmDecrypt cipher.key ⟨nonce, h⟩ (header.getD []) inputData)
    else .panic
  | none =>
    if inputData.length % 16 ≠ 0 then .err .decryptionFailed
    else unpad (ecb (C.aesDecryptBlock cipher.key) inputData)

end Methods

section Padding

theorem length_pad (data : Bytes) : (pad data).length = (data.length / 16 + 1) * 16 := by
  simp only [pad, List.length_append, List.length_replicate]
  omega

theorem pad_ne_nil (data : Bytes) : pad data ≠ [] := by
  intro h
  have hl := length_pad data
  rw [h, List.length_nil] at hl
  omega

theorem unpad_pad (data : Bytes) : unpad (pad data) = .ok data := by
  set n := 16 - data.length % 16 with hn
  have hpad : pad data = data ++ List.replicate n (UInt8.ofNat n) := rfl
  have hlen : (pad data).length = data.length + n := by simp [hpad]
  have hbyte : (UInt8.ofNat n).toNat = n := by
    simp only [UInt8.toNat_ofNat']
    omega
  have hget : ∀ i, i < n → (pad data)[(pad data).length - 1 - i]? = some (UInt8.ofNat n) := by
    intro i hi
    rw [hlen, hpad, List.getElem?_append_right (by omega), List.getElem?_replicate,
      if_pos (by omega)]
  have hlast : index (pad data) ((pad data).length - 1)
      = (.ok (UInt8.ofNat n) : Result UInt8) := by
    have h0 := hget 0 (by omega)
    rw [Nat.sub_zero] at h0
    simp only [index, h0]
  have hany : (List.range n).any
      (fun i => (pad data)[(pad data).length - 1 - i]? != some (UInt8.ofNat n)) = false := by
    rw [List.any_eq_false]
    intro i hi
    simp [hget i (List.mem_range.mp hi)]
  have hne : (pad data).isEmpty = false := by
    simpa [List.isEmpty_iff] using pad_ne_nil data
  have htake : (pad data).take (data.length + n - n) = data := by
    rw [hpad, Nat.add_sub_cancel, List.take_left' rfl]
  simp only [unpad, hne, Bool.false_eq_true, if_false, hlast, Outcome.ok_bind, hbyte, hany]
  rw [if_neg (by omega), hlen, htake]

end Padding

section Inverse

variable {C : Crates} (cipher : TuyaCipher)

theorem length_ecb (f : U8Array 16 → U8Array 16) {data : Bytes} (h : data.length % 16 = 0) :
    (ecb f data).length = data.length := by
  have hk : data.length = data.length / 16 * 16 := by omega
  rw [ecb, length_mapBlocks (length_onBlock f) _ _ hk]
  exact hk.symm

theorem ecb_inverse {f g : U8Array 16 → U8Array 16} (hgf : ∀ b, g (f b) = b) {data : Bytes}
    (h : data.length % 16 = 0) : ecb g (ecb f data) = data := by
  have hk : data.length = data.length / 16 * 16 := by omega
  have hl := length_ecb f h
  rw [ecb, hl]
  exact mapBlocks_inverse (length_onBlock f) (onBlock_inverse hgf) _ _ hk

theorem encrypt_padded (data : Bytes) (header : Option Bytes) :
    cipher.encrypt C data false none header true
      = .ok (ecb (C.aesEncryptBlock cipher.key) (pad data)) := rfl

theorem length_encrypt_padded (data : Bytes) :
    (ecb (C.aesEncryptBlock cipher.key) (pad data)).length = (data.length / 16 + 1) * 16 := by
  have hp := length_pad data
  rw [length_ecb _ (by omega), hp]

theorem decrypt_encrypt_padded (hC : C.BlockLaw) (data : Bytes) :
    cipher.decrypt C (ecb (C.aesEncryptBlock cipher.key) (pad data)) false none none
      = .ok data := by
  have hp := length_pad data
  have hl := length_encrypt_padded (C := C) cipher data
  have hm : (ecb (C.aesEncryptBlock cipher.key) (pad data)).length % 16 = 0 := by omega
  simp only [TuyaCipher.decrypt, Bool.false_eq_true, if_false, Outcome.ok_bind, hm,
    ne_eq, not_true_eq_false]
  rw [ecb_inverse (hC cipher.key) (by omega), unpad_pad]

theorem encrypt_unpadded {data : Bytes} (h : data.length % 16 = 0) (header : Option Bytes) :
    cipher.encrypt C data false none header false
      = .ok (ecb (C.aesEncryptBlock cipher.key) data) := by
  simp [TuyaCipher.encrypt, h]

theorem decrypt_partial_block {data : Bytes} (h : data.length % 16 ≠ 0)
    (header : Option Bytes) :
    cipher.decrypt C data false none header = .err .decryptionFailed := by
  simp [TuyaCipher.decrypt, h]

theorem encrypt_gcm (hC : C.GcmLaw) {iv data : Bytes} {header : Option Bytes}
    (hiv : iv.length = 12) (hheader : (header.getD []).length < 2 ^ 32)
    (hdata : data.length < 2 ^ 32) (padding : Bool) :
    ∃ c, cipher.encrypt C data false (some iv) header padding = .ok (iv ++ c) ∧
      c.length = data.length + 16 ∧
      cipher.decrypt C c false (some iv) header = .ok data := by
  have hs : (slice iv 0 12 : Result Bytes) = .ok iv := by
    rw [slice_of_le (by omega) (by omega) (by decide)]
    simp [List.take_of_length_le (Nat.le_of_eq hiv)]
  obtain ⟨c, he, hl, hd⟩ := hC cipher.key ⟨iv, hiv⟩ (header.getD []) data hdata hheader
  refine ⟨c, ?_, hl, ?_⟩
  · simp [TuyaCipher.encrypt, hs, hiv, he]
  · simp [TuyaCipher.decrypt, hs, hiv, hd]

end Inverse

end Crypto
