import Rustuya.ByteCodec

/-!
# Block by block transformations

A cipher in electronic-codebook mode replaces every block of the input on its own.
Inverting it, its length and its first block follow from the same facts about one
block.
-/
namespace BlockMode

open ByteCodec

variable {α : Type}

/-- Replaces the first `k` blocks of `n` elements. -/
def mapBlocks (n : Nat) (f : List α → List α) : Nat → List α → List α
  | 0, xs => xs
  | k + 1, xs => f (xs.take n) ++ mapBlocks n f k (xs.drop n)

def onBlock {n : Nat} (f : U8Array n → U8Array n) (b : Bytes) : Bytes :=
  if h : b.length = n then (f ⟨b, h⟩).val else b

theorem length_onBlock {n : Nat} (f : U8Array n → U8Array n) (b : Bytes)
    (h : b.length = n) : (onBlock f b).length = n := by
  rw [onBlock, dif_pos h]
  exact (f ⟨b, h⟩).property

theorem onBlock_inverse {n : Nat} {f g : U8Array n → U8Array n} (hgf : ∀ b, g (f b) = b)
    (b : Bytes) (h : b.length = n) : onBlock g (onBlock f b) = b := by
  have hf : onBlock f b = (f ⟨b, h⟩).val := dif_pos h
  rw [hf, onBlock, dif_pos (f ⟨b, h⟩).property, Subtype.coe_eta, hgf]

section Blocks

variable {n : Nat} {f g : List α → List α}

theorem length_mapBlocks (hf : ∀ b, b.length = n → (f b).length = n) :
    ∀ (k : Nat) (xs : List α), xs.length = k * n → (mapBlocks n f k xs).length = k * n
  | 0, xs, h => h
  | k + 1, xs, h => by
    have hk : (k + 1) * n = k * n + n := Nat.succ_mul k n
    have ht : (xs.take n).length = n := by rw [List.length_take]; omega
    have hd : (xs.drop n).length = k * n := by rw [List.length_drop]; omega
    rw [mapBlocks, List.length_append, hf _ ht, length_mapBlocks hf k _ hd]
    omega

theorem mapBlocks_inverse (hf : ∀ b, b.length = n → (f b).length = n)
    (hgf : ∀ b, b.length = n → g (f b) = b) :
    ∀ (k : Nat) (xs : List α), xs.length = k * n →
      mapBlocks n g k (mapBlocks n f k xs) = xs
  | 0, xs, _ => rfl
  | k + 1, xs, h => by
    have hk : (k + 1) * n = k * n + n := Nat.succ_mul k n
    have ht : (xs.take n).length = n := by rw [List.length_take]; omega
    have hd : (xs.drop n).length = k * n := by rw [List.length_drop]; omega
    have hb : (f (xs.take n)).length = n := hf _ ht
    rw [mapBlocks, mapBlocks, List.take_left' hb, List.drop_left' hb, hgf _ ht,
      mapBlocks_inverse hf hgf k _ hd, List.take_append_drop]

theorem take_mapBlocks (hf : ∀ b, b.length = n → (f b).length = n) {k : Nat} {xs : List α}
    (hk : 0 < k) (h : xs.length = k * n) : (mapBlocks n f k xs).take n = f (xs.take n) := by
  obtain ⟨j, rfl⟩ : ∃ j, k = j + 1 := ⟨k - 1, by omega⟩
  have hj : (j + 1) * n = j * n + n := Nat.succ_mul j n
  have ht : (xs.take n).length = n := by rw [List.length_take]; omega
  rw [mapBlocks, List.take_left' (hf _ ht)]

end Blocks

end BlockMode
