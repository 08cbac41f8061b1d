import Qwen3xOrin.Packed.Scales

/-! The packed addresses of a well-formed table are a bijection onto its payload, and so are those
of every role. -/

namespace Qwen3xOrin.Packed

open Io Library

structure PackedBijection (admits : PackedLayout → Bool) (layout : PackedLayout) : Prop where
  weight_defined : ∀ i partition n k, layout.partitions[i]? = some partition →
    n < partition.outputFeatures → k < partition.inputFeatures →
    ∃ a, packedWeightAddress admits layout i n k = some a ∧ a.byteOffset < layout.payloadBytes
  weight_injective : ∀ i n k i' n' k' a a', packedWeightAddress admits layout i n k = some a →
    packedWeightAddress admits layout i' n' k' = some a' → a.byteOffset = a'.byteOffset →
    a.nibble = a'.nibble → i = i' ∧ n = n' ∧ k = k'
  scale_defined : ∀ i partition n g, layout.partitions[i]? = some partition →
    partition.blockScaleGroupK = 16 → n < partition.outputFeatures →
    g < partition.inputFeatures / 16 →
    ∃ a, packedScaleAddress admits layout i n g = some a ∧ a.byteOffset < layout.payloadBytes
  scale_injective : ∀ i n g i' n' g' a a', packedScaleAddress admits layout i n g = some a →
    packedScaleAddress admits layout i' n' g' = some a' → a.byteOffset = a'.byteOffset →
    i = i' ∧ n = n' ∧ g = g'
  disjoint : ∀ i n k i' n' g a b, packedWeightAddress admits layout i n k = some a →
    packedScaleAddress admits layout i' n' g = some b → a.byteOffset ≠ b.byteOffset
  cover : ∀ offset < layout.payloadBytes,
    (∃ i n g a, packedScaleAddress admits layout i n g = some a ∧ a.byteOffset = offset) ∨
    ∃ i partition, layout.partitions[i]? = some partition ∧
      ∀ nibble < 8 / partition.weightBits, ∃ n k a,
        packedWeightAddress admits layout i n k = some a ∧ a.byteOffset = offset ∧
          a.nibble = nibble
  reverse_weight : ∀ offset nibble a,
    packedReverseWeight admits layout offset nibble = some a ↔
      packedWeightAddress admits layout a.partitionIndex a.n a.k = some a ∧
        a.byteOffset = offset ∧ a.nibble = nibble
  reverse_scale : ∀ offset a,
    packedReverseScale admits layout offset = some a ↔
      packedScaleAddress admits layout a.partitionIndex a.n a.scaleGroup = some a ∧
        a.byteOffset = offset

section Table

variable {admits : PackedLayout → Bool} {layout : PackedLayout} {i : ℕ}

-- An address with its partition and its offset in it.
lemma weight_place (htable : PackedTable layout) {n k : ℕ} {a : PackedWeightAddress}
    (h : packedWeightAddress admits layout i n k = some a) :
    ∃ partition, layout.partitions[i]? = some partition ∧ partition.WellFormed ∧
      n < partition.outputFeatures ∧ k < partition.inputFeatures ∧
      a.byteOffset = partition.weightOffset n k ∧ a.nibble = partition.weightNibble n k ∧
      partition.payloadOffset ≤ a.byteOffset ∧
      a.byteOffset < partition.payloadOffset + partition.payloadBytes := by
  obtain ⟨⟨partition, hi, hn, hk⟩, hadmits, -⟩ := packedWeightAddress_some h
  have hwell := htable.partitions partition (List.mem_of_getElem? hi)
  obtain ⟨a', ha', hoffset, hnibble⟩ := packedWeightAddress_ok htable hadmits hi hn hk
  obtain rfl := Option.some.inj (ha'.symm.trans h)
  have hinside := hwell.weightOffset_inside hn hk
  rw [← hoffset] at hinside
  exact ⟨partition, hi, hwell, hn, hk, hoffset, hnibble, hinside⟩

lemma scale_place (htable : PackedTable layout) {n g : ℕ} {a : PackedScaleAddress}
    (h : packedScaleAddress admits layout i n g = some a) :
    ∃ partition, layout.partitions[i]? = some partition ∧ partition.WellFormed ∧
      partition.blockScaleGroupK = 16 ∧ n < partition.outputFeatures ∧
      g < partition.inputFeatures / 16 ∧ a.byteOffset = partition.scaleOffset n g ∧
      partition.payloadOffset ≤ a.byteOffset ∧
      a.byteOffset < partition.payloadOffset + partition.payloadBytes := by
  obtain ⟨⟨partition, hi, hgroup, hn, hk⟩, hadmits, -⟩ := packedScaleAddress_some h
  have hwell := htable.partitions partition (List.mem_of_getElem? hi)
  obtain ⟨a', ha', hoffset⟩ := packedScaleAddress_ok htable hadmits hi hgroup hn hk
  obtain rfl := Option.some.inj (ha'.symm.trans h)
  have hinside := hwell.scaleOffset_inside hgroup hn hk
  rw [← hoffset] at hinside
  exact ⟨partition, hi, hwell, hgroup, hn, hk, hoffset, hinside⟩

lemma packed_bijection (htable : PackedTable layout) (hadmits : admits layout = true) :
    PackedBijection admits layout where
  weight_defined i partition n k hi hn hk := by
    obtain ⟨a, ha, -, -⟩ := packedWeightAddress_ok htable hadmits hi hn hk
    obtain ⟨partition, hi, -, -, -, -, -, -, hlt⟩ := weight_place htable ha
    exact ⟨a, ha, hlt.trans_le (htable.stacked.bounds hi).2⟩
  weight_injective i n k i' n' k' a a' ha ha' hoffset hnibble := by
    obtain ⟨p, hi, hwell, hn, hk, hbyte, hnib, hlo, hhi⟩ := weight_place htable ha
    obtain ⟨p', hi', -, hn', hk', hbyte', hnib', hlo', hhi'⟩ := weight_place htable ha'
    rw [← hoffset] at hlo' hhi'
    obtain rfl := htable.stacked.unique hi hi' hlo hhi hlo' hhi'
    obtain rfl := Option.some.inj (hi.symm.trans hi')
    rw [hbyte, hbyte'] at hoffset
    rw [hnib, hnib'] at hnibble
    exact ⟨rfl, hwell.weight_unique hk hk' hoffset hnibble⟩
  scale_defined i partition n g hi hgroup hn hk := by
    obtain ⟨a, ha, -⟩ := packedScaleAddress_ok htable hadmits hi hgroup hn hk
    obtain ⟨partition, hi, -, -, -, -, -, -, hlt⟩ := scale_place htable ha
    exact ⟨a, ha, hlt.trans_le (htable.stacked.bounds hi).2⟩
  scale_injective i n g i' n' g' a a' ha ha' hoffset := by
    obtain ⟨p, hi, hwell, hgroup, hn, hk, hbyte, hlo, hhi⟩ := scale_place htable ha
    obtain ⟨p', hi', -, -, hn', hk', hbyte', hlo', hhi'⟩ := scale_place htable ha'
    rw [← hoffset] at hlo' hhi'
    obtain rfl := htable.stacked.unique hi hi' hlo hhi hlo' hhi'
    obtain rfl := Option.some.inj (hi.symm.trans hi')
    rw [hbyte, hbyte'] at hoffset
    exact ⟨rfl, hwell.scale_unique hgroup hk hk' hoffset⟩
  disjoint i n k i' n' g a b ha hb heq := by
    obtain ⟨p, hi, hwell, hn, hk, hbyte, -, hlo, hhi⟩ := weight_place htable ha
    obtain ⟨p', hi', -, hgroup, hn', hk', hbyte', hlo', hhi'⟩ := scale_place htable hb
    rw [← heq] at hlo' hhi'
    obtain rfl := htable.stacked.unique hi hi' hlo hhi hlo' hhi'
    obtain rfl := Option.some.inj (hi.symm.trans hi')
    rw [hbyte, hbyte'] at heq
    have hslot := cellSlot_mod_lt n k
    obtain ⟨-, hsame⟩ := Radix.digits_inj (hwell.slotByte_lt_cell hslot)
      (hwell.scaleByte_lt hgroup n' g) (Nat.add_left_cancel heq)
    have := hwell.slotByte_lt hslot
    omega
  cover offset hoffset := by
    obtain ⟨i, partition, hi, hlo, hhi⟩ := htable.stacked.cover (Nat.zero_le _) hoffset
    have hwell := htable.partitions partition (List.mem_of_getElem? hi)
    obtain ⟨relative, rfl⟩ := Nat.exists_eq_add_of_le hlo
    have hrelative : relative < partition.payloadBytes := by omega
    by_cases hweight : relative % partition.cellBytes < partition.weightBytesPerCell
    · refine Or.inr ⟨i, partition, hi, fun nibble hnibble => ?_⟩
      obtain ⟨n, k, hn, hk, hbyte, hnib, -, -⟩ := hwell.weight_cover hrelative hweight hnibble
      obtain ⟨a, ha, hoffset, hnibble⟩ := packedWeightAddress_ok htable hadmits hi hn hk
      exact ⟨n, k, a, ha, hoffset.trans hbyte, hnibble.trans hnib⟩
    · obtain ⟨hgroup, n, g, hn, hg, hbyte⟩ := hwell.scale_cover hrelative hweight
      obtain ⟨a, ha, hoffset⟩ := packedScaleAddress_ok htable hadmits hi hgroup hn hg
      exact Or.inl ⟨i, n, g, a, ha, hoffset.trans hbyte⟩
  reverse_weight offset nibble a := packedReverseWeight_iff htable
  reverse_scale offset a := packedReverseScale_iff htable

end Table

-- The layout of a role that has none is empty, and its address functions are nowhere defined.
lemma packed_bijection_nil {layout : PackedLayout} (hpartitions : layout.partitions = [])
    (hbytes : layout.payloadBytes = 0) (admits : PackedLayout → Bool) :
    PackedBijection admits layout := by
  have htable : PackedTable layout := by
    refine ⟨?_, ?_, ?_⟩
    · rw [hpartitions]
      exact fun _ h => absurd h List.not_mem_nil
    · rw [hpartitions, hbytes]
      rfl
    · rw [hbytes]
      exact Nat.zero_le _
  have hweight : ∀ i n k, packedWeightAddress admits layout i n k = none := by
    intro i n k
    cases h : packedWeightAddress admits layout i n k with
    | none => rfl
    | some a =>
      obtain ⟨⟨partition, hi, -⟩, -⟩ := packedWeightAddress_some h
      simp [hpartitions] at hi
  have hscale : ∀ i n g, packedScaleAddress admits layout i n g = none := by
    intro i n g
    cases h : packedScaleAddress admits layout i n g with
    | none => rfl
    | some a =>
      obtain ⟨⟨partition, hi, -⟩, -⟩ := packedScaleAddress_some h
      simp [hpartitions] at hi
  constructor
  case reverse_weight => exact fun _ _ _ => packedReverseWeight_iff htable
  case reverse_scale => exact fun _ _ => packedReverseScale_iff htable
  all_goals simp [hpartitions, hbytes, hweight, hscale]

theorem packed_layout_bijection :
    (∀ role, PackedBijection PackedLayout.valid (packedLayout role)) ∧
    ∀ layout, PackedTable layout → PackedBijection (fun _ => true) layout := by
  refine ⟨fun role => ?_, fun layout htable => packed_bijection htable rfl⟩
  by_cases hrole : role = .invalid ∨ role = .count
  · obtain rfl | rfl := hrole
    · exact packed_bijection_nil rfl rfl _
    · exact packed_bijection_nil rfl rfl _
  · rw [not_or] at hrole
    exact packed_bijection (packedLayout_table role) (packedLayout_valid hrole.1 hrole.2)

def sampleTable : PackedLayout :=
  let (partitions, payloadBytes) :=
    packedPartitions true 128 0 0 [⟨.nvFp4Gate, 0, 256⟩, ⟨.nvFp4Up, 256, 512⟩]
  { partitions := partitions, payloadBytes := payloadBytes }

theorem packed_layout_bijection_sample : PackedBijection (fun _ => true) sampleTable :=
  packed_layout_bijection.2 sampleTable
    (@packedPartitions_table sampleTable true 128 [⟨.nvFp4Gate, 0, 256⟩, ⟨.nvFp4Up, 256, 512⟩]
      (by decide) (by decide) rfl rfl (by decide))

end Qwen3xOrin.Packed
