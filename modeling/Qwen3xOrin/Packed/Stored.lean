import Qwen3xOrin.Packed.LocalMaps

/-! What a packed payload stores: every weight and block scale of the sources at its packed address.
The verifier checks exactly this, and it leaves no byte of the payload open. -/

namespace Qwen3xOrin.Packed

open Io Library

def sourceWeight (partition : PackedPartition) (source : SourceBytes) (n k : ℕ) : UInt8 :=
  if partition.weightBits = 4 then
    readNibble (source.packedWeight.contents (n * (partition.inputFeatures / 2) + k / 2)) (k % 2)
  else source.packedWeight.contents (n * partition.inputFeatures + k)

def sourceScale (partition : PackedPartition) (source : SourceBytes) (n group : ℕ) : UInt8 :=
  source.blockScale.contents (n * (partition.inputFeatures / 16) + group)

def storedWeight (partition : PackedPartition) (payload : ℕ → UInt8) (offset nibble : ℕ) : UInt8 :=
  if partition.weightBits = 4 then readNibble (payload offset) nibble else payload offset

structure Stores (layout : PackedLayout) (sources : SourceSet) (payload : ℕ → UInt8) : Prop where
  weights : ∀ i partition n k a, layout.partitions[i]? = some partition →
    packedWeightAddress PackedLayout.valid layout i n k = some a →
    storedWeight partition payload a.byteOffset a.nibble =
      sourceWeight partition (sources.sources i) n k
  scales : ∀ i partition n g a, layout.partitions[i]? = some partition →
    packedScaleAddress PackedLayout.valid layout i n g = some a →
    payload a.byteOffset = sourceScale partition (sources.sources i) n g

-- The same, place by place in one partition.
structure PartitionStores (partition : PackedPartition) (source : SourceBytes)
    (payload : ℕ → UInt8) : Prop where
  weights : ∀ n < partition.outputFeatures, ∀ k < partition.inputFeatures,
    storedWeight partition payload (partition.weightOffset n k) (partition.weightNibble n k) =
      sourceWeight partition source n k
  scales : partition.blockScaleGroupK = 16 → ∀ n < partition.outputFeatures,
    ∀ g < partition.inputFeatures / 16,
      payload (partition.scaleOffset n g) = sourceScale partition source n g

section Stores

variable {layout : PackedLayout} {sources : SourceSet} {payload payload' : ℕ → UInt8}

lemma stores_iff (hvalid : layout.valid = true) :
    Stores layout sources payload ↔ ∀ i partition, layout.partitions[i]? = some partition →
      PartitionStores partition (sources.sources i) payload := by
  have htable := valid_table hvalid
  constructor
  · intro h i partition hi
    refine ⟨fun n hn k hk => ?_, fun hgroup n hn g hg => ?_⟩
    · obtain ⟨a, ha, hoffset, hnibble⟩ := packedWeightAddress_ok htable hvalid hi hn hk
      rw [← hoffset, ← hnibble]
      exact h.weights i partition n k a hi ha
    · obtain ⟨a, ha, hoffset⟩ := packedScaleAddress_ok htable hvalid hi hgroup hn hg
      rw [← hoffset]
      exact h.scales i partition n g a hi ha
  · intro h
    refine ⟨fun i partition n k a hi ha => ?_, fun i partition n g a hi ha => ?_⟩
    · obtain ⟨p, hi', -, hn, hk, hoffset, hnibble, -⟩ := weight_place htable ha
      obtain rfl := Option.some.inj (hi.symm.trans hi')
      rw [hoffset, hnibble]
      exact (h i partition hi).weights n hn k hk
    · obtain ⟨p, hi', -, hgroup, hn, hg, hoffset, -⟩ := scale_place htable ha
      obtain rfl := Option.some.inj (hi.symm.trans hi')
      rw [hoffset]
      exact (h i partition hi).scales hgroup n hn g hg

-- The payload of given sources is determined byte by byte.
lemma Stores.unique (hvalid : layout.valid = true) (h : Stores layout sources payload)
    (h' : Stores layout sources payload') {offset : ℕ} (hoffset : offset < layout.payloadBytes) :
    payload offset = payload' offset := by
  have htable := valid_table hvalid
  obtain ⟨i, n, g, a, ha, rfl⟩ | ⟨i, partition, hi, hnibbles⟩ :=
    (packed_bijection htable hvalid).cover offset hoffset
  · obtain ⟨partition, hi, -⟩ := scale_place htable ha
    rw [h.scales i partition n g a hi ha, h'.scales i partition n g a hi ha]
  · have hsame : ∀ nibble < 8 / partition.weightBits,
        storedWeight partition payload offset nibble =
          storedWeight partition payload' offset nibble := by
      intro nibble hnibble
      obtain ⟨n, k, a, ha, rfl, rfl⟩ := hnibbles nibble hnibble
      rw [h.weights i partition n k a hi ha, h'.weights i partition n k a hi ha]
    unfold storedWeight at hsame
    have hwell := htable.partitions partition (List.mem_of_getElem? hi)
    obtain ⟨hbits, -⟩ | ⟨hbits, -⟩ := hwell.format
    · simp only [hbits, ↓reduceIte] at hsame
      exact eq_of_nibbles (hsame 0 (by decide)) (hsame 1 (by decide))
    · have hsame := hsame 0 (by rw [hbits]; decide)
      rwa [if_neg (by omega), if_neg (by omega)] at hsame

lemma Stores.congr (hvalid : layout.valid = true) (h : Stores layout sources payload)
    (hsame : ∀ offset < layout.payloadBytes, payload' offset = payload offset) :
    Stores layout sources payload' := by
  have htable := valid_table hvalid
  refine ⟨fun i partition n k a hi ha => ?_, fun i partition n g a hi ha => ?_⟩
  · obtain ⟨p, hi', -, -, -, -, -, -, hlt⟩ := weight_place htable ha
    have hstored := h.weights i partition n k a hi ha
    unfold storedWeight at hstored ⊢
    rwa [hsame _ (hlt.trans_le (htable.stacked.bounds hi').2)]
  · obtain ⟨p, hi', -, -, -, -, -, -, hlt⟩ := scale_place htable ha
    rw [hsame _ (hlt.trans_le (htable.stacked.bounds hi').2)]
    exact h.scales i partition n g a hi ha

end Stores

section Cell

variable {layout : PackedLayout} {partition : PackedPartition} {source : SourceBytes}
  {maps : LocalMaps} {nTile kTile : ℕ}

def cellAt (partition : PackedPartition) (partitionIndex : ℕ) (tile : ℕ × ℕ) : PackedCell where
  partitionIndex := partitionIndex
  nTile := tile.1
  kTile := tile.2
  payloadOffset := partition.payloadOffset +
    (tile.1 * partition.kTiles + tile.2) * partition.cellBytes
  weightOffset := partition.payloadOffset +
    (tile.1 * partition.kTiles + tile.2) * partition.cellBytes
  weightBytes := partition.weightBytesPerCell
  blockScaleOffset := partition.payloadOffset +
    (tile.1 * partition.kTiles + tile.2) * partition.cellBytes + partition.weightBytesPerCell
  blockScaleBytes := partition.blockScaleBytesPerCell
  cellBytes := partition.cellBytes

-- The table of the first cell gives the global address in every cell.
lemma local_weight (hmaps : MapsExact partition maps) {n k : ℕ} (hn : n < 256) (hk : k < 64)
    (i : ℕ) (tile : ℕ × ℕ) :
    (cellAt partition i tile).weightOffset + (maps.weights (n * 64 + k)).byteOffset =
        partition.weightOffset (tile.1 * 256 + n) (tile.2 * 64 + k) ∧
      (maps.weights (n * 64 + k)).nibble =
        partition.weightNibble (tile.1 * 256 + n) (tile.2 * 64 + k) := by
  rw [hmaps.weights n hn k hk]
  unfold PackedPartition.weightOffset PackedPartition.weightNibble
  rw [Radix.div_digits hn, Radix.div_digits hk, Radix.mod_digits hn, Radix.mod_digits hk]
  exact ⟨Nat.add_assoc .., rfl⟩

lemma local_scale (hmaps : MapsExact partition maps) (hgroup : partition.blockScaleGroupK = 16)
    {n g : ℕ} (hn : n < 256) (hg : g < 4) (i : ℕ) (tile : ℕ × ℕ) :
    (cellAt partition i tile).blockScaleOffset + maps.scales (n * 4 + g) =
      partition.scaleOffset (tile.1 * 256 + n) (tile.2 * 4 + g) := by
  rw [hmaps.scales hgroup n hn g hg]
  unfold PackedPartition.scaleOffset
  rw [Radix.div_digits hn, Radix.div_digits hg, Radix.mod_digits hn, Radix.mod_digits hg]
  unfold cellAt
  dsimp only
  omega

lemma rowMatches_iff (hmaps : MapsExact partition maps) (i : ℕ) (tile : ℕ × ℕ)
    (payload : ℕ → UInt8) {n : ℕ} (hn : n < 256) :
    rowMatches partition source maps (cellAt partition i tile) tile.1 tile.2 payload n ↔
      ∀ k < 64, storedWeight partition payload
          (partition.weightOffset (tile.1 * 256 + n) (tile.2 * 64 + k))
          (partition.weightNibble (tile.1 * 256 + n) (tile.2 * 64 + k)) =
        sourceWeight partition source (tile.1 * 256 + n) (tile.2 * 64 + k) := by
  unfold rowMatches storedWeight sourceWeight
  split_ifs with hbits
  · refine forall₂_congr fun k hk => ?_
    obtain ⟨hoffset, hnibble⟩ := local_weight hmaps hn hk i tile
    rw [← hoffset, ← hnibble]
    exact eq_comm
  · refine forall₂_congr fun k hk => ?_
    rw [← (local_weight hmaps hn hk i tile).1]
    exact eq_comm

lemma scaleRowMatches_iff (hmaps : MapsExact partition maps)
    (hgroup : partition.blockScaleGroupK = 16) (i : ℕ) (tile : ℕ × ℕ) (payload : ℕ → UInt8)
    {n : ℕ} (hn : n < 256) :
    scaleRowMatches partition source maps (cellAt partition i tile) tile.1 tile.2 payload n ↔
      ∀ g < 4, payload (partition.scaleOffset (tile.1 * 256 + n) (tile.2 * 4 + g)) =
        sourceScale partition source (tile.1 * 256 + n) (tile.2 * 4 + g) := by
  unfold scaleRowMatches sourceScale
  rw [hgroup]
  refine forall₂_congr fun g hg => ?_
  rw [← local_scale hmaps hgroup hn hg i tile]
  exact eq_comm

lemma mem_tiles {tile : ℕ × ℕ} :
    tile ∈ tiles partition ↔ tile.1 < partition.nTiles ∧ tile.2 < partition.kTiles := mem_grid

lemma cell_fits (htable : PackedTable layout) {i : ℕ}
    (hi : layout.partitions[i]? = some partition) {tile : ℕ × ℕ} (htile : tile ∈ tiles partition) :
    (cellAt partition i tile).payloadOffset + partition.cellBytes ≤ layout.payloadBytes := by
  have hwell := htable.partitions partition (List.mem_of_getElem? hi)
  have hbound := (htable.stacked.bounds hi).2
  obtain ⟨hn, hk⟩ := mem_tiles.1 htile
  have hpositive := hwell.cell_pos
  have hlast := hwell.cell_lt hn hk (Nat.sub_lt hpositive Nat.one_pos)
  unfold cellAt
  dsimp only
  omega

end Cell

end Qwen3xOrin.Packed
