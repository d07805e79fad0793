import Rustuya.KnownAnswers

/-!
# The padded mode as an exact codec

Decryption undoes encryption on every text, and it accepts nothing else: a ciphertext that
is decrypted is the encryption of what it is decrypted to. The protocol decoders take the
failure of `decrypt` as the sign that a payload was not encrypted.
-/
namespace PaddedCipher

open CheckedExecution ByteCodec BlockMode Error Crypto

structure BlockBijection (C : Crates) : Prop where
  decrypt_encrypt : C.BlockLaw
  encrypt_decrypt : ∀ key block, C.aesEncryptBlock key (C.aesDecryptBlock key block) = block

def Base64Inverse (C : Crates) : Prop := ∀ data, C.base64Decode (C.base64Encode data) = some data

theorem unpad_cases {plaintext : Bytes} (h : plaintext ≠ []) :
    unpad plaintext = .err .decryptionFailed ∨
    ∃ p n, unpad plaintext = .ok p ∧ 0 < n ∧ n ≤ 16 ∧
      plaintext = p ++ List.replicate n (UInt8.ofNat n) := by
  have hpos : 0 < plaintext.length := List.length_pos_of_ne_nil h
  have hlast : plaintext.length - 1 < plaintext.length := by omega
  rw [unpad, if_neg (by simpa using h), index_of_lt hlast, Outcome.ok_bind]
  set last := plaintext[plaintext.length - 1]
  dsimp only
  split
  · exact .inl rfl
  rename_i hrange
  split
  · exact .inl rfl
  rename_i hall
  refine .inr ⟨_, last.toNat, rfl, by omega, by omega, ?_⟩
  have hsame : ∀ i, i < last.toNat → plaintext[plaintext.length - 1 - i]? = some last := by
    simpa using hall
  have htail : plaintext.drop (plaintext.length - last.toNat)
      = List.replicate last.toNat last := by
    apply List.ext_getElem?
    intro i
    rw [List.getElem?_drop, List.getElem?_replicate]
    split
    · -- The octet at `i` from the cut is the octet at `padLen - 1 - i` from the end.
      rw [← hsame (last.toNat - 1 - i) (by omega)]
      congr 1
      omega
    · exact List.getElem?_eq_none (by omega)
  rw [UInt8.ofNat_toNat, ← htail, List.take_append_drop]

/-- A text of whole blocks that the check accepts is the padding of what the check returns. -/
theorem pad_of_unpad {plaintext p : Bytes} (hne : plaintext ≠ [])
    (hblocks : plaintext.length % 16 = 0) (h : unpad plaintext = .ok p) : pad p = plaintext := by
  rcases unpad_cases hne with hfail | ⟨q, n, hok, hpos, hmax, htext⟩
  · rw [hfail] at h
    cases h
  · rw [hok] at h
    cases h
    have hlength : plaintext.length = p.length + n := by
      rw [htext, List.length_append, List.length_replicate]
    have hn : 16 - p.length % 16 = n := by omega
    rw [htext, pad, hn]

variable {C : Crates} (cipher : TuyaCipher)

theorem decrypt_blocks {c : Bytes} (h : c.length % 16 = 0) (header : Option Bytes) :
    cipher.decrypt C c false none header = unpad (ecb (C.aesDecryptBlock cipher.key) c) := by
  simp [TuyaCipher.decrypt, h]

theorem ecb_ne_nil (f : U8Array 16 → U8Array 16) {c : Bytes} (hne : c ≠ [])
    (h : c.length % 16 = 0) : ecb f c ≠ [] := by
  apply List.ne_nil_of_length_pos
  rw [length_ecb f h]
  exact List.length_pos_of_ne_nil hne

theorem encrypt_of_decrypt (hC : BlockBijection C) {c p : Bytes} (hne : c ≠ [])
    {header header' : Option Bytes} (h : cipher.decrypt C c false none header' = .ok p) :
    cipher.encrypt C p false none header true = .ok c := by
  by_cases hblocks : c.length % 16 = 0
  · rw [decrypt_blocks cipher hblocks] at h
    have hpad : pad p = ecb (C.aesDecryptBlock cipher.key) c :=
      pad_of_unpad (ecb_ne_nil _ hne hblocks) (by rw [length_ecb _ hblocks, hblocks]) h
    rw [encrypt_padded, hpad, ecb_inverse (hC.encrypt_decrypt cipher.key) hblocks]
  · rw [decrypt_partial_block cipher hblocks] at h
    cases h

theorem decrypt_returns {c : Bytes} (hne : c ≠ []) (header : Option Bytes) :
    (∃ p, cipher.decrypt C c false none header = .ok p) ∨
      cipher.decrypt C c false none header = .err .decryptionFailed := by
  by_cases hblocks : c.length % 16 = 0
  · rw [decrypt_blocks cipher hblocks]
    rcases unpad_cases (ecb_ne_nil (C.aesDecryptBlock cipher.key) hne hblocks) with
      hfail | ⟨p, -, hok, -⟩
    · exact .inr hfail
    · exact .inl ⟨p, hok⟩
  · exact .inr (decrypt_partial_block cipher hblocks header)

theorem decrypt_of_encrypt (hC : C.BlockLaw) {c p : Bytes} {header header' : Option Bytes}
    (h : cipher.encrypt C p false none header true = .ok c) :
    cipher.decrypt C c false none header' = .ok p := by
  rw [encrypt_padded] at h
  cases h
  exact decrypt_encrypt_padded cipher hC p

/-- Without a nonce and with padding, a cipher is an exact codec: every text is encrypted and
decrypted to itself, written in base 64 or not; and of the ciphertexts that are not empty,
`decrypt` accepts just the encryptions, each for its own text. -/
theorem padded_codec_exact (hC : BlockBijection C) (h64 : Base64Inverse C)
    (header header' : Option Bytes) :
    (∀ p useBase64, ∃ c, cipher.encrypt C p useBase64 none header true = .ok c ∧
      cipher.decrypt C c useBase64 none header' = .ok p) ∧
    ∀ c, c ≠ [] →
      (∀ p, cipher.decrypt C c false none header' = .ok p →
        cipher.encrypt C p false none header true = .ok c) ∧
      ((∃ e, cipher.decrypt C c false none header' = .err e) ↔
        ∀ p, cipher.encrypt C p false none header true ≠ .ok c) := by
  constructor
  · intro p useBase64
    have hplain : cipher.decrypt C (ecb (C.aesEncryptBlock cipher.key) (pad p)) false none header'
        = .ok p := decrypt_of_encrypt cipher hC.decrypt_encrypt (encrypt_padded cipher p header)
    cases useBase64 with
    | false => exact ⟨_, encrypt_padded cipher p header, hplain⟩
    | true =>
      refine ⟨_, rfl, ?_⟩
      simpa [TuyaCipher.decrypt, h64 _] using hplain
  · intro c hne
    refine ⟨fun p h => encrypt_of_decrypt cipher hC hne h, ?_⟩
    constructor
    · rintro ⟨e, herr⟩ p henc
      rw [decrypt_of_encrypt cipher hC.decrypt_encrypt henc] at herr
      cases herr
    · intro hnone
      rcases decrypt_returns cipher hne header' with ⟨p, hok⟩ | hfail
      · exact absurd (encrypt_of_decrypt cipher hC hne hok) (hnone p)
      · exact ⟨_, hfail⟩

open KnownAnswers in
theorem padded_codec_exact_sample :
    (TuyaCipher.mk sampleKey).decrypt crates localNonce.val false none none
      = .err .decryptionFailed ∧
    ∀ p, (TuyaCipher.mk sampleKey).encrypt crates p false none none true ≠ .ok localNonce.val := by
  have hexact := padded_codec_exact (C := crates) (.mk sampleKey)
    ⟨blockLaw, fun key block => (aesPerm key).apply_symm_apply block⟩ (fun d => (base64Law d).1)
    none none
  have hfail : (TuyaCipher.mk sampleKey).decrypt crates localNonce.val false none none
      = .err .decryptionFailed := by
    decide +kernel
  exact ⟨hfail, (hexact.2 localNonce.val (by decide)).2.mp ⟨_, hfail⟩⟩

end PaddedCipher
