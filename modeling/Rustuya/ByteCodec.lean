import Mathlib.Data.List.Basic
import Mathlib.Tactic.NormNum

/-!
# Byte strings and big-endian integers

Byte strings are lists of octets. The integers of a wire format are written most
significant octet first, and reading a field consumes exactly its octets.
-/
namespace ByteCodec

abbrev Bytes := List UInt8

/-- A byte array whose length belongs to its type. -/
abbrev U8Array (n : Nat) := { b : Bytes // b.length = n }

def utf8 (s : String) : Bytes := s.toUTF8.data.toList

def writeU16 (x : UInt16) : Bytes :=
  [UInt8.ofNat (x.toNat / 2 ^ 8), UInt8.ofNat x.toNat]

def writeU32 (x : UInt32) : Bytes :=
  [UInt8.ofNat (x.toNat / 2 ^ 24), UInt8.ofNat (x.toNat / 2 ^ 16),
    UInt8.ofNat (x.toNat / 2 ^ 8), UInt8.ofNat x.toNat]

def readU32 : Bytes → UInt32
  | a :: b :: c :: d :: _ =>
    UInt32.ofNat (a.toNat * 2 ^ 24 + b.toNat * 2 ^ 16 + c.toNat * 2 ^ 8 + d.toNat)
  | _ => 0

@[simp] theorem length_writeU32 (x : UInt32) : (writeU32 x).length = 4 := rfl

@[simp] theorem readU32_writeU32 (x : UInt32) (rest : Bytes) :
    readU32 (writeU32 x ++ rest) = x := by
  have hx := x.toNat_lt
  apply UInt32.toNat_inj.mp
  simp only [writeU32, List.cons_append, readU32, UInt32.toNat_ofNat', UInt8.toNat_ofNat']
  omega

theorem writeU32_readU32 {data : Bytes} (h : 4 ≤ data.length) :
    writeU32 (readU32 data) = data.take 4 := by
  match data, h with
  | a :: b :: c :: d :: rest, _ =>
    have ha := a.toNat_lt
    have hb := b.toNat_lt
    have hc := c.toNat_lt
    have hd := d.toNat_lt
    simp only [writeU32, readU32, UInt32.toNat_ofNat', List.take_succ_cons, List.take_zero,
      List.cons.injEq, and_true]
    refine ⟨?_, ?_, ?_, ?_⟩ <;> apply UInt8.toNat_inj.mp <;>
      simp only [UInt8.toNat_ofNat'] <;> omega

theorem readU32_take {data : Bytes} {n : Nat} (h : 4 ≤ n) :
    readU32 (data.take n) = readU32 data := by
  obtain ⟨m, rfl⟩ : ∃ m, n = m + 4 := ⟨n - 4, by omega⟩
  match data with
  | [] => rfl
  | [_] => rfl
  | [_, _] => rfl
  | [_, _, _] => rfl
  | a :: b :: c :: d :: rest => rfl

theorem readU32_append {data : Bytes} (h : 4 ≤ data.length) (rest : Bytes) :
    readU32 (data ++ rest) = readU32 data := by
  have htake : readU32 ((data ++ rest).take data.length) = readU32 (data ++ rest) :=
    readU32_take h
  rw [← htake, List.take_left' rfl]

end ByteCodec
