import Qwen3xOrin.Packed.Weights

/-! Block scale addresses of a well-formed table, in the region behind the weights of a cell. -/

namespace Qwen3xOrin.Packed

open Io Library

def PackedPartition.scaleOffset (partition : PackedPartition) (n scaleGroup : ℕ) : ℕ :=
  partition.payloadOffset +
    ((n / 256 * partition.kTiles + scaleGroup / 4) * partition.cellBytes +
      (partition.weightBytesPerCell + scaleSlot (n % 256) (scaleGroup % 4)))

section Scale

variable {admits : PackedLayout → Bool} {layout : PackedLayout} {partition : PackedPartition}
  {i n scaleGroup : ℕ}

-- Only the 4-bit format has block scales.
lemma PackedPartition.WellFormed.scaled (h : partition.WellFormed)
    (hgroup : partition.blockScaleGroupK = 16) :
    partition.weightBytesPerCell = 8192 ∧ partition.blockScaleBytesPerCell = 1024 ∧
      partition.cellBytes = 9216 := by
  have := h.format
  have := h.cellBytes
  omega

lemma packedScaleAddress_ok (htable : PackedTable layout) (hadmits : admits layout = true)
    (hi : layout.partitions[i]? = some partition) (hgroup : partition.blockScaleGroupK = 16)
    (hn : n < partition.outputFeatures) (hk : scaleGroup < partition.inputFeatures / 16) :
    ∃ address, packedScaleAddress admits layout i n scaleGroup = some address ∧
      address.byteOffset = partition.scaleOffset n scaleGroup := by
  have hwell := htable.partitions partition (List.mem_of_getElem? hi)
  obtain ⟨houtput, hinput⟩ := hwell.sizes
  obtain ⟨-, hscales, -⟩ := hwell.scaled hgroup
  have hfragment := @packedFragment_eq admits layout partition i htable hadmits hi (n / 256)
    (scaleGroup / 4) (scaleGroup % 4) (n % 256 / 64) (n % 256 % 64 / 8) (by omega) (by omega)
    (by omega) (by omega) (by omega)
  unfold packedScaleAddress
  simp only [hadmits, hi, hgroup, hn, hk, guard, Option.bind_eq_bind, and_self, ↓reduceIte,
    Option.pure_def, Option.bind_some, projectionBlockN, packedNPerWarp, hfragment, hscales,
    Nat.reduceEqDiff]
  refine ⟨_, rfl, ?_⟩
  unfold PackedPartition.scaleOffset scaleSlot
  dsimp only
  generalize (n / 256 * partition.kTiles + scaleGroup / 4) * partition.cellBytes = cell
  omega

lemma packedScaleAddress_some {address : PackedScaleAddress}
    (h : packedScaleAddress admits layout i n scaleGroup = some address) :
    (∃ partition, layout.partitions[i]? = some partition ∧ partition.blockScaleGroupK = 16 ∧
      n < partition.outputFeatures ∧ scaleGroup < partition.inputFeatures / 16) ∧
    admits layout = true ∧ address.partitionIndex = i ∧ address.n = n ∧
      address.scaleGroup = scaleGroup := by
  unfold packedScaleAddress at h
  simp only [Option.bind_eq_bind, Option.bind_eq_some_iff, guard_some, exists_and_left,
    exists_const, Option.pure_def] at h
  obtain ⟨hadmits, partition, hi, hrange, fragment, -, -, h⟩ := h
  obtain rfl := Option.some.inj h
  exact ⟨⟨partition, hi, hrange⟩, hadmits, rfl, rfl, rfl⟩

lemma scaleSlot_mod_lt (n scaleGroup : ℕ) : scaleSlot (n % 256) (scaleGroup % 4) < 1024 :=
  scaleSlot_lt (Nat.mod_lt _ (by omega)) (Nat.mod_lt _ (by omega))

lemma PackedPartition.WellFormed.scaleByte_lt (h : partition.WellFormed)
    (hgroup : partition.blockScaleGroupK = 16) (n scaleGroup : ℕ) :
    partition.weightBytesPerCell + scaleSlot (n % 256) (scaleGroup % 4) < partition.cellBytes := by
  have hslot := scaleSlot_mod_lt n scaleGroup
  have hsizes := h.scaled hgroup
  omega

lemma PackedPartition.WellFormed.scaleOffset_inside (h : partition.WellFormed)
    (hgroup : partition.blockScaleGroupK = 16) (hn : n < partition.outputFeatures)
    (hk : scaleGroup < partition.inputFeatures / 16) :
    partition.payloadOffset ≤ partition.scaleOffset n scaleGroup ∧
      partition.scaleOffset n scaleGroup <
        partition.payloadOffset + partition.payloadBytes := by
  obtain ⟨houtput, hinput⟩ := h.sizes
  have hnTile : n / 256 < partition.nTiles := by omega
  have hkTile : scaleGroup / 4 < partition.kTiles := by omega
  have hcell := h.cell_lt hnTile hkTile
    (h.scaleByte_lt hgroup n scaleGroup)
  unfold PackedPartition.scaleOffset
  omega

lemma PackedPartition.WellFormed.scale_unique (h : partition.WellFormed)
    (hgroup : partition.blockScaleGroupK = 16) {n' scaleGroup' : ℕ}
    (hk : scaleGroup < partition.inputFeatures / 16)
    (hk' : scaleGroup' < partition.inputFeatures / 16)
    (hoffset : partition.scaleOffset n scaleGroup = partition.scaleOffset n' scaleGroup') :
    n = n' ∧ scaleGroup = scaleGroup' := by
  obtain ⟨houtput, hinput⟩ := h.sizes
  obtain ⟨hcell, hbyte⟩ := Radix.digits_inj (h.scaleByte_lt hgroup n scaleGroup)
    (h.scaleByte_lt hgroup n' scaleGroup') (Nat.add_left_cancel hoffset)
  obtain ⟨hn, hk⟩ := Radix.digits_inj (by omega) (by omega) hcell
  have hslot := Nat.add_left_cancel hbyte
  have hnmod := congrArg scaleSlotN hslot
  have hkmod := congrArg (· / 256) hslot
  rw [scaleSlotN_scaleSlot (by omega), scaleSlotN_scaleSlot (by omega)] at hnmod
  rw [scaleSlot_div (by omega), scaleSlot_div (by omega)] at hkmod
  omega

lemma PackedPartition.WellFormed.scale_cover (h : partition.WellFormed) {relative : ℕ}
    (hrelative : relative < partition.payloadBytes)
    (hscale : ¬ relative % partition.cellBytes < partition.weightBytesPerCell) :
    partition.blockScaleGroupK = 16 ∧
    ∃ n scaleGroup, n < partition.outputFeatures ∧ scaleGroup < partition.inputFeatures / 16 ∧
      partition.scaleOffset n scaleGroup = partition.payloadOffset + relative := by
  obtain ⟨houtput, hinput⟩ := h.sizes
  obtain ⟨hpositive, hkTiles, hnTile⟩ := h.cell_coordinates hrelative
  have hbyte := Nat.mod_lt relative hpositive
  have hgroup : partition.blockScaleGroupK = 16 := by
    have := h.format
    have := h.cellBytes
    omega
  obtain ⟨hweight, hscales, hcell⟩ := h.scaled hgroup
  refine ⟨hgroup, ?_⟩
  obtain ⟨slot, hslot⟩ : ∃ slot, relative % partition.cellBytes =
      partition.weightBytesPerCell + slot := ⟨_, (Nat.add_sub_cancel' (not_lt.mp hscale)).symm⟩
  have hkTile := Nat.mod_lt (relative / partition.cellBytes) hkTiles
  have hnIn := scaleSlotN_lt slot
  have hkIn : slot / 256 < 4 := by omega
  refine ⟨relative / partition.cellBytes / partition.kTiles * 256 + scaleSlotN slot,
    relative / partition.cellBytes % partition.kTiles * 4 + slot / 256, by omega, by omega, ?_⟩
  unfold PackedPartition.scaleOffset
  rw [Radix.div_digits hnIn, Radix.mod_digits hnIn, Radix.div_digits hkIn, Radix.mod_digits hkIn,
    scaleSlot_slot, ← hslot, Radix.digits_eq, Radix.digits_eq]

lemma packedReverseScale_of (htable : PackedTable layout) {address : PackedScaleAddress}
    (h : packedScaleAddress admits layout i n scaleGroup = some address) :
    packedReverseScale admits layout address.byteOffset = some address := by
  obtain ⟨⟨partition, hi, hgroup, hn, hk⟩, hadmits, -, -, -⟩ := packedScaleAddress_some h
  have hwell := htable.partitions partition (List.mem_of_getElem? hi)
  obtain ⟨a, ha, hoffset⟩ := packedScaleAddress_ok htable hadmits hi hgroup hn hk
  obtain rfl := Option.some.inj (ha.symm.trans h)
  obtain ⟨houtput, hinput⟩ := hwell.sizes
  obtain ⟨hlo, hhi⟩ := hwell.scaleOffset_inside hgroup hn hk
  obtain ⟨hweight, -, hcell⟩ := hwell.scaled hgroup
  have hslot := scaleSlot_mod_lt n scaleGroup
  have hbyte := hwell.scaleByte_lt hgroup n scaleGroup
  have hkTile : scaleGroup / 4 < partition.kTiles := by omega
  have hrelative : partition.scaleOffset n scaleGroup - partition.payloadOffset =
      (n / 256 * partition.kTiles + scaleGroup / 4) * partition.cellBytes +
        (partition.weightBytesPerCell + scaleSlot (n % 256) (scaleGroup % 4)) :=
    Nat.add_sub_cancel_left ..
  have hnDigits : n / 256 * 256 + scaleSlotN (scaleSlot (n % 256) (scaleGroup % 4)) = n := by
    rw [scaleSlotN_scaleSlot (by omega)]
    omega
  have hkDigits : scaleGroup / 4 * 4 + scaleSlot (n % 256) (scaleGroup % 4) / 256 =
      scaleGroup := by
    rw [scaleSlot_div (by omega)]
    omega
  unfold packedReverseScale
  rw [hoffset, partitionForOffset_eq htable hi hlo hhi]
  simp only [Option.bind_eq_bind, Option.bind_some, hi, hrelative, Radix.div_digits hbyte,
    Radix.mod_digits hbyte, Radix.div_digits hkTile, Radix.mod_digits hkTile, packedK16s,
    packedN8Panels, packedNWarpCount, packedNPerWarp, projectionBlockN, Nat.add_sub_cancel_left]
  generalize scaleSlot (n % 256) (scaleGroup % 4) = slot at *
  have hrow : slot / 8 / 8 % 4 * 64 + slot / 8 % 8 * 8 + slot % 8 = scaleSlotN slot := by
    unfold scaleSlotN
    omega
  have hgroupDigit : slot / 8 / 8 / 4 = slot / 256 := by omega
  rw [Option.bind_eq_some_iff]
  refine ⟨(), guard_some.mpr hadmits, ?_⟩
  rw [Option.bind_eq_some_iff]
  refine ⟨(), guard_some.mpr hgroup, ?_⟩
  rw [Option.bind_eq_some_iff]
  refine ⟨(), guard_some.mpr (by omega), ?_⟩
  rw [Option.bind_eq_some_iff]
  refine ⟨(), guard_some.mpr (by omega), ?_⟩
  rw [Nat.add_assoc (n / 256 * 256), Nat.add_assoc (n / 256 * 256), hrow, hnDigits, hgroupDigit,
    hkDigits, h, Option.bind_some, Option.bind_eq_some_iff]
  exact ⟨(), guard_some.mpr hoffset, rfl⟩

lemma packedReverseScale_iff (htable : PackedTable layout) {offset : ℕ}
    {address : PackedScaleAddress} :
    packedReverseScale admits layout offset = some address ↔
      packedScaleAddress admits layout address.partitionIndex address.n address.scaleGroup =
        some address ∧ address.byteOffset = offset := by
  constructor
  · intro h
    unfold packedReverseScale at h
    simp only [Option.bind_eq_bind, Option.bind_eq_some_iff, guard_some, exists_and_left,
      exists_const, Option.pure_def, Option.some.injEq] at h
    obtain ⟨-, i, -, partition, -, -, -, -, result, haddress, hoffset, rfl⟩ := h
    obtain ⟨-, -, hi, hn, hk⟩ := packedScaleAddress_some haddress
    rw [hi, hn, hk]
    exact ⟨haddress, hoffset⟩
  · rintro ⟨h, rfl⟩
    exact packedReverseScale_of htable h

end Scale

end Qwen3xOrin.Packed
