import Mathlib.Tactic

/-! Byte strings as strings of bits, and fields of six bits written into them. -/

namespace Qwen3xOrin.Library.BitFields

abbrev Byte := BitVec 8

def bit (bytes : List Byte) (n : ℕ) : Bool := (bytes.getD (n / 8) 0).getLsbD (n % 8)

lemma bytes_ext {l l' : List Byte} (hlength : l.length = l'.length)
    (h : ∀ n < 8 * l.length, bit l n = bit l' n) : l = l' := by
  refine List.ext_getElem hlength fun i hi hi' => ?_
  refine BitVec.eq_of_getLsbD_eq fun j hj => ?_
  have hbit := h (8 * i + j) (by omega)
  have hindex : (8 * i + j) / 8 = i := by omega
  have hoffset : (8 * i + j) % 8 = j := by omega
  simpa [bit, hindex, hoffset, List.getD_eq_getElem?_getD, hi, hi'] using hbit

lemma bit_replicate_zero (size n : ℕ) : bit (List.replicate size 0) n = false := by
  rw [bit, List.getD_eq_getElem?_getD, List.getElem?_replicate]
  split <;> simp

section Writing

variable {bytes : List Byte} {index n : ℕ} {value : Byte}

def orAt (bytes : List Byte) (index : ℕ) (value : Byte) : List Byte :=
  bytes.set index (bytes.getD index 0 ||| value)

@[simp] lemma orAt_length : (orAt bytes index value).length = bytes.length := List.length_set

lemma bit_orAt (h : index < bytes.length) :
    bit (orAt bytes index value) n =
      (bit bytes n || (decide (n / 8 = index) && value.getLsbD (n % 8))) := by
  by_cases hindex : n / 8 = index
  · simp [bit, orAt, hindex, List.getD_eq_getElem?_getD, h]
  · have hread : (orAt bytes index value).getD (n / 8) 0 = bytes.getD (n / 8) 0 := by
      simp only [orAt, List.getD_eq_getElem?_getD, List.getElem?_set_ne (Ne.symm hindex)]
    rw [bit, hread]
    simp [bit, hindex]

-- The write of a field: it reaches into the next byte when it does not fit into the first.
def orField (bytes : List Byte) (position : ℕ) (value : BitVec 32) : List Byte :=
  let shift := position % 8
  let payload := value <<< shift
  let bytes := orAt bytes (position / 8) (payload.setWidth 8)
  if 2 < shift then orAt bytes (position / 8 + 1) ((payload >>> 8).setWidth 8) else bytes

@[simp] lemma orField_length {position : ℕ} {value : BitVec 32} :
    (orField bytes position value).length = bytes.length := by
  unfold orField
  dsimp only
  split <;> simp

section Field

variable {position : ℕ} {field : BitVec 32}

lemma getLsbD_six (hfield : field ≤ 63#32) {j : ℕ} (hj : 6 ≤ j) : field.getLsbD j = false := by
  have hlt : field.toNat < 2 ^ j := by
    have hle : field.toNat ≤ 63 := BitVec.le_def.mp hfield
    have hpow : 2 ^ 6 ≤ 2 ^ j := Nat.pow_le_pow_right (by decide) hj
    omega
  exact Nat.testBit_lt_two_pow hlt

lemma outside_field (hfield : field ≤ 63#32) (houtside : n < position ∨ position + 6 ≤ n) :
    (decide (position ≤ n) && field.getLsbD (n - position)) = false := by
  obtain hbefore | hafter := houtside
  · rw [decide_eq_false (Nat.not_le.mpr hbefore), Bool.false_and]
  · rw [getLsbD_six hfield (by omega), Bool.and_false]

lemma first_byte (hindex : n / 8 = position / 8) :
    ((field <<< (position % 8)).setWidth 8).getLsbD (n % 8) =
      (decide (position ≤ n) && field.getLsbD (n - position)) := by
  have hlt : n % 8 < 8 := Nat.mod_lt _ (by decide)
  have hwide : n % 8 < 32 := by omega
  rw [BitVec.getLsbD_setWidth, BitVec.getLsbD_shiftLeft]
  by_cases hle : position ≤ n
  · have hshift : ¬n % 8 < position % 8 := by omega
    have hoffset : n % 8 - position % 8 = n - position := by omega
    simp [hlt, hwide, hle, hshift, hoffset]
  · have hshift : n % 8 < position % 8 := by omega
    simp [hle, hshift]

lemma second_byte (hindex : n / 8 = position / 8 + 1) :
    ((field <<< (position % 8) >>> 8).setWidth 8).getLsbD (n % 8) =
      field.getLsbD (n - position) := by
  have hlt : n % 8 < 8 := Nat.mod_lt _ (by decide)
  have hwide : 8 + n % 8 < 32 := by omega
  have hshift : ¬8 + n % 8 < position % 8 := by omega
  have hoffset : 8 + n % 8 - position % 8 = n - position := by omega
  rw [BitVec.getLsbD_setWidth, BitVec.getLsbD_ushiftRight, BitVec.getLsbD_shiftLeft]
  simp [hlt, hwide, hshift, hoffset]

lemma bit_orField (hfield : field ≤ 63#32) (hfits : position + 6 ≤ 8 * bytes.length) :
    bit (orField bytes position field) n =
      (bit bytes n || (decide (position ≤ n) && field.getLsbD (n - position))) := by
  have hfirst : position / 8 < bytes.length := by omega
  unfold orField
  dsimp only
  by_cases hcross : 2 < position % 8
  · have hsecond : position / 8 + 1 < bytes.length := by omega
    rw [if_pos hcross, bit_orAt (by rw [orAt_length]; exact hsecond), bit_orAt hfirst]
    by_cases hindex : n / 8 = position / 8
    · rw [first_byte hindex]
      simp [hindex]
    by_cases hnext : n / 8 = position / 8 + 1
    · have hle : position ≤ n := by omega
      rw [second_byte hnext]
      simp [hnext, hle]
    · rw [outside_field hfield (by omega)]
      simp [hindex, hnext]
  · rw [if_neg hcross, bit_orAt hfirst]
    by_cases hindex : n / 8 = position / 8
    · rw [first_byte hindex]
      simp [hindex]
    · rw [outside_field hfield (by omega)]
      simp [hindex]

end Field

end Writing

section Reading

variable {bytes : List Byte} {position j : ℕ}

lemma getLsbD_mask (width : ℕ) :
    (BitVec.ofNat 32 (2 ^ width - 1)).getLsbD j = (decide (j < 32) && decide (j < width)) := by
  rw [BitVec.getLsbD_ofNat, Nat.testBit_two_pow_sub_one]

def readField (bytes : List Byte) (position : ℕ) : BitVec 32 :=
  let shift := position % 8
  let window := (bytes.getD (position / 8) 0).setWidth 32
  let window :=
    if 2 < shift then window ||| (bytes.getD (position / 8 + 1) 0).setWidth 32 <<< 8 else window
  window >>> shift &&& 63#32

lemma getLsbD_readField :
    (readField bytes position).getLsbD j = (decide (j < 6) && bit bytes (position + j)) := by
  have hmask : (63#32).getLsbD j = (decide (j < 32) && decide (j < 6)) := getLsbD_mask 6
  unfold readField
  dsimp only
  rw [BitVec.getLsbD_and, hmask, BitVec.getLsbD_ushiftRight]
  by_cases hj : j < 6
  · have hwide : j < 32 := by omega
    have hwide' : position % 8 + j < 32 := by omega
    by_cases hcross : 2 < position % 8
    · rw [if_pos hcross, BitVec.getLsbD_or, BitVec.getLsbD_shiftLeft]
      by_cases hbyte : position % 8 + j < 8
      · have hindex : (position + j) / 8 = position / 8 := by omega
        have hoffset : (position + j) % 8 = position % 8 + j := by omega
        simp [bit, hindex, hoffset, hj, hwide, hwide', hbyte]
      · have hindex : (position + j) / 8 = position / 8 + 1 := by omega
        have hoffset : (position + j) % 8 = position % 8 + j - 8 := by omega
        have hshort : position % 8 + j - 8 < 32 := by omega
        rw [BitVec.getLsbD_setWidth, BitVec.getLsbD_of_ge _ _ (Nat.le_of_not_lt hbyte)]
        simp [bit, hindex, hoffset, hj, hwide, hwide', hbyte, hshort]
    · have hindex : (position + j) / 8 = position / 8 := by omega
      have hoffset : (position + j) % 8 = position % 8 + j := by omega
      rw [if_neg hcross]
      simp [bit, hindex, hoffset, hj, hwide, hwide']
  · simp [hj]

-- A little-endian word.
def loadWord (bytes : List Byte) (offset : ℕ) : BitVec 32 :=
  bytes.getD (offset + 3) 0 ++ bytes.getD (offset + 2) 0 ++ bytes.getD (offset + 1) 0 ++
    bytes.getD offset 0

lemma getLsbD_loadWord {offset : ℕ} (hj : j < 32) :
    (loadWord bytes offset).getLsbD j = bit bytes (8 * offset + j) := by
  have hsplit (i : ℕ) (hi : i < 4) (hin : 8 * i ≤ j ∧ j < 8 * i + 8) :
      bit bytes (8 * offset + j) = (bytes.getD (offset + i) 0).getLsbD (j - 8 * i) := by
    have hindex : (8 * offset + j) / 8 = offset + i := by omega
    have hoffset : (8 * offset + j) % 8 = j - 8 * i := by omega
    rw [bit, hindex, hoffset]
  unfold loadWord
  rw [BitVec.getLsbD_append, BitVec.getLsbD_append, BitVec.getLsbD_append]
  split_ifs with h0 h1 h2
  · exact (hsplit 0 (by omega) (by omega)).symm
  · exact (hsplit 1 (by omega) (by omega)).symm
  · rw [hsplit 2 (by omega) (by omega)]
    congr 1
  · rw [hsplit 3 (by omega) (by omega)]
    congr 1

end Reading

end Qwen3xOrin.Library.BitFields
