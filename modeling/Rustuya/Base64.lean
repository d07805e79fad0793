import Rustuya.ByteCodec

/-!
# The standard base-64 alphabet

Three octets become four characters of a 64-letter alphabet; a shorter last group is
filled with `=`. Decoding accepts canonical texts only: the filler is required and the
unused bits of the last letter are zero.
-/
namespace Base64

open ByteCodec

def filler : UInt8 := 0x3d

def letter (n : Nat) : UInt8 :=
  if n < 26 then UInt8.ofNat (65 + n)
  else if n < 52 then UInt8.ofNat (71 + n)
  else if n < 62 then UInt8.ofNat (n - 4)
  else if n = 62 then 0x2b else 0x2f

def value (c : UInt8) : Option Nat :=
  if 65 ≤ c.toNat ∧ c.toNat ≤ 90 then some (c.toNat - 65)
  else if 97 ≤ c.toNat ∧ c.toNat ≤ 122 then some (c.toNat - 71)
  else if 48 ≤ c.toNat ∧ c.toNat ≤ 57 then some (c.toNat + 4)
  else if c = 0x2b then some 62
  else if c = 0x2f then some 63
  else none

def encode : Bytes → Bytes
  | [] => []
  | [a] => [letter (a.toNat / 4), letter (a.toNat % 4 * 16), filler, filler]
  | [a, b] => [letter (a.toNat / 4), letter (a.toNat % 4 * 16 + b.toNat / 16),
      letter (b.toNat % 16 * 4), filler]
  | a :: b :: c :: rest =>
    letter (a.toNat / 4) :: letter (a.toNat % 4 * 16 + b.toNat / 16) ::
      letter (b.toNat % 16 * 4 + c.toNat / 64) :: letter (c.toNat % 64) :: encode rest

def decodeLast (w x y : UInt8) : Option Bytes := do
  let m ← value w
  let n ← value x
  if y = filler then
    if n % 16 = 0 then some [UInt8.ofNat (m * 4 + n / 16)] else none
  else
    let o ← value y
    if o % 4 = 0 then
      some [UInt8.ofNat (m * 4 + n / 16), UInt8.ofNat (n % 16 * 16 + o / 4)]
    else none

def decode : Bytes → Option Bytes
  | [] => some []
  | w :: x :: y :: z :: rest =>
    if z = filler then
      if rest = [] then decodeLast w x y else none
    else do
      let m ← value w
      let n ← value x
      let o ← value y
      let p ← value z
      let tail ← decode rest
      some (UInt8.ofNat (m * 4 + n / 16) :: UInt8.ofNat (n % 16 * 16 + o / 4) ::
        UInt8.ofNat (o % 4 * 64 + p) :: tail)
  | _ => none

theorem value_letter : ∀ n < 64, value (letter n) = some n := by decide

theorem letter_ne_filler : ∀ n < 64, letter n ≠ filler := by decide

theorem ofNat_eq_of_toNat {x : UInt8} {n : Nat} (h : n = x.toNat) : UInt8.ofNat n = x := by
  rw [h]
  exact UInt8.ofNat_toNat

theorem decode_encode : ∀ data : Bytes, decode (encode data) = some data
  | [] => rfl
  | [a] => by
    have ha := a.toNat_lt
    have h₁ := value_letter (a.toNat / 4) (by omega)
    have h₂ := value_letter (a.toNat % 4 * 16) (by omega)
    have hm : a.toNat % 4 * 16 % 16 = 0 := by omega
    simp only [encode, decode, decodeLast, if_true, h₁, h₂, Option.bind_eq_bind,
      Option.bind_some, hm]
    rw [ofNat_eq_of_toNat (x := a) (by omega)]
  | [a, b] => by
    have ha := a.toNat_lt
    have hb := b.toNat_lt
    have h₁ := value_letter (a.toNat / 4) (by omega)
    have h₂ := value_letter (a.toNat % 4 * 16 + b.toNat / 16) (by omega)
    have h₃ := value_letter (b.toNat % 16 * 4) (by omega)
    have hf := letter_ne_filler (b.toNat % 16 * 4) (by omega)
    have hm : b.toNat % 16 * 4 % 4 = 0 := by omega
    simp only [encode, decode, decodeLast, if_true, if_neg hf, h₁, h₂, h₃,
      Option.bind_eq_bind, Option.bind_some, hm]
    rw [ofNat_eq_of_toNat (x := a) (by omega), ofNat_eq_of_toNat (x := b) (by omega)]
  | a :: b :: c :: rest => by
    have ha := a.toNat_lt
    have hb := b.toNat_lt
    have hc := c.toNat_lt
    have h₁ := value_letter (a.toNat / 4) (by omega)
    have h₂ := value_letter (a.toNat % 4 * 16 + b.toNat / 16) (by omega)
    have h₃ := value_letter (b.toNat % 16 * 4 + c.toNat / 64) (by omega)
    have h₄ := value_letter (c.toNat % 64) (by omega)
    have hf := letter_ne_filler (c.toNat % 64) (by omega)
    simp only [encode, decode, if_neg hf, h₁, h₂, h₃, h₄, decode_encode rest,
      Option.bind_eq_bind, Option.bind_some]
    rw [ofNat_eq_of_toNat (x := a) (by omega), ofNat_eq_of_toNat (x := b) (by omega),
      ofNat_eq_of_toNat (x := c) (by omega)]

theorem length_encode : ∀ data : Bytes, (encode data).length = 4 * ((data.length + 2) / 3)
  | [] => rfl
  | [_] => by simp [encode]
  | [_, _] => by simp [encode]
  | a :: b :: c :: rest => by
    simp only [encode, List.length_cons, length_encode rest]
    omega

end Base64
