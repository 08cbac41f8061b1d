import Qwen3xOrin.Packed.TransformExact

/-! Packing is lossless: the transform of accepted sources passes its checks, the verifier accepts
no other payload for them, and the payload gives back every source byte. -/

namespace Qwen3xOrin.Packed

open Io Library

structure AcceptedSource (partition : PackedPartition) (source : SourceBytes) : Prop where
  weightBytes : source.packedWeight.bytes = expectedWeightBytes partition
  scaleBytes : source.blockScale.bytes = expectedScaleBytes partition
  scales : ∀ scale < source.blockScale.bytes,
    ¬ blockScaleCodeIsForbidden (source.blockScale.contents scale)

section Inspect

variable {sha256 : List UInt8 → Digest} {sources : SourceSet} {inventory : SourceInventory}

lemma checkMetadata_ok {partition : PackedPartition} {index : ℕ}
    (h : checkMetadata sources partition index = .ok ⟨⟩) :
    (sources.sources index).packedWeight.bytes = expectedWeightBytes partition ∧
      (sources.sources index).blockScale.bytes = expectedScaleBytes partition := by
  unfold checkMetadata at h
  simp only [guard_ok, not_or, not_not] at h
  exact ⟨h.2.2.2.2.1.1, h.2.2.2.2.1.2.1⟩

lemma inspectSource_ok {layout : PackedLayout} {inspection inspection' : Inspection} {index : ℕ}
    (hindex : index < sources.sourceCount)
    (h : inspectSource sha256 layout sources inspection index = .ok inspection') :
    AcceptedSource (layout.partitions.getD index {}) (sources.sources index) := by
  unfold inspectSource at h
  dsimp only at h
  rw [if_neg (by omega), bind_ok] at h
  obtain ⟨⟨⟩, hmetadata, h⟩ := h
  rw [guard_ok, guard_ok] at h
  obtain ⟨hweights, hscales⟩ := checkMetadata_ok hmetadata
  refine ⟨hweights, hscales, fun scale hscale hforbidden => ?_⟩
  exact h.2.1 ⟨scale, hscale, hforbidden⟩

lemma inspectSources_ok (h : inspectSources sha256 sources = .ok inventory) :
    (packedLayout sources.role).valid = true ∧
    sources.sourceCount = (packedLayout sources.role).partitions.length ∧
    ∀ i partition, (packedLayout sources.role).partitions[i]? = some partition →
      AcceptedSource partition (sources.sources i) := by
  unfold inspectSources at h
  dsimp only at h
  simp only [guard_ok, not_or, not_not, not_lt, bind_ok, Bool.not_eq_false] at h
  obtain ⟨-, hvalid, ⟨hcount, hmaximum⟩, inspection, hfold, -⟩ := h
  refine ⟨hvalid, hcount, fun i partition hi => ?_⟩
  obtain ⟨hlt, hget⟩ := List.getElem?_eq_some_iff.mp hi
  obtain ⟨before, after, hstep⟩ := foldlM_ok_mem hfold (List.mem_range.mpr (by omega : i < _))
  have haccepted := inspectSource_ok (by omega) hstep
  rwa [List.getD_eq_getElem?_getD, hi] at haccepted

end Inspect

section Accepted

variable {layout : PackedLayout} {sources sources' : SourceSet} {payload payload' : ℕ → UInt8}
  {partition : PackedPartition} {i : ℕ}

-- Every byte of the scale region of a cell is a block scale of the source.
lemma scanCell_ok (hvalid : layout.valid = true) (hi : layout.partitions[i]? = some partition)
    (haccepted : AcceptedSource partition (sources.sources i))
    (hstores : PartitionStores partition (sources.sources i) payload)
    (hgroup : partition.blockScaleGroupK = 16) {tile : ℕ × ℕ} (htile : tile ∈ tiles partition) :
    scanCell layout layout.payloadBytes payload i tile = .ok ⟨⟩ := by
  have hwell := (valid_table hvalid).partitions partition (List.mem_of_getElem? hi)
  obtain ⟨hweights, hscales, hcell⟩ := hwell.scaled hgroup
  obtain ⟨houtput, hinput⟩ := hwell.sizes
  obtain ⟨hrow, hcolumn⟩ := mem_tiles.mp htile
  have hfits := cell_fits (valid_table hvalid) hi htile
  unfold scanCell
  rw [packedCell_cellAt hvalid hi htile]
  dsimp only
  unfold cellAt at hfits ⊢
  dsimp only at hfits ⊢
  rw [guard_ok, guard_ok]
  refine ⟨by omega, ?_, rfl⟩
  rintro ⟨byte, hbyte, hforbidden⟩
  have hlt := hwell.cell_lt hrow hcolumn
    (b := partition.weightBytesPerCell + byte) (by omega)
  have hbehind : ¬ ((tile.1 * partition.kTiles + tile.2) * partition.cellBytes +
      (partition.weightBytesPerCell + byte)) % partition.cellBytes <
      partition.weightBytesPerCell := by
    rw [Radix.mod_digits (by omega)]
    omega
  obtain ⟨-, n, g, hn, hg, hoffset⟩ := hwell.scale_cover hlt hbehind
  have hindex : n * (partition.inputFeatures / 16) + g <
      (sources.sources i).blockScale.bytes := by
    rw [haccepted.scaleBytes, expectedScaleBytes, if_neg (by omega), hgroup, partitionValues,
      Nat.mul_div_assoc _ (by omega)]
    exact Radix.digits_lt hn hg
  rw [Nat.add_assoc, Nat.add_assoc, ← hoffset, hstores.scales hgroup n hn g hg] at hforbidden
  exact haccepted.scales _ hindex hforbidden

lemma scanPayloadScales_ok (hvalid : layout.valid = true)
    (haccepted : ∀ i partition, layout.partitions[i]? = some partition →
      AcceptedSource partition (sources.sources i)) (hstores : Stores layout sources payload) :
    scanPayloadScales layout layout.payloadBytes payload = .ok ⟨⟩ := by
  unfold scanPayloadScales
  rw [checkAll_ok]
  rintro ⟨partition, i⟩ hmem
  have hi := mem_zipIdx.mp hmem
  have hwell := (valid_table hvalid).partitions partition (List.mem_of_getElem? hi)
  dsimp only at hi ⊢
  split_ifs with hgroup
  · rfl
  · have hgroup' : partition.blockScaleGroupK = 16 := by
      have := hwell.format
      omega
    rw [checkAll_ok]
    intro tile htile
    exact scanCell_ok hvalid hi (haccepted i partition hi)
      ((stores_iff hvalid).mp hstores i partition hi) hgroup' htile

lemma sourceWeight_inj (hwell : partition.WellFormed) {source source' : SourceBytes}
    (h : ∀ n < partition.outputFeatures, ∀ k < partition.inputFeatures,
      sourceWeight partition source n k = sourceWeight partition source' n k) {j : ℕ}
    (hj : j < expectedWeightBytes partition) :
    source.packedWeight.contents j = source'.packedWeight.contents j := by
  obtain ⟨-, hinput⟩ := hwell.sizes
  unfold expectedWeightBytes partitionValues at hj
  unfold sourceWeight at h
  obtain ⟨hbits, -⟩ | ⟨hbits, -⟩ := hwell.format
  · simp only [hbits, ↓reduceIte] at h hj
    have hhalves : partition.outputFeatures * partition.inputFeatures * 4 / 8 =
        partition.outputFeatures * (partition.inputFeatures / 2) := by
      rw [← Nat.mul_div_assoc _ (by omega : 2 ∣ partition.inputFeatures)]
      omega
    rw [hhalves] at hj
    have hpositive : 0 < partition.inputFeatures / 2 :=
      Nat.pos_of_mul_pos_left (hj.trans_le' (Nat.zero_le j))
    have hn := (Nat.div_lt_iff_lt_mul hpositive).mpr hj
    have hhalf := Nat.mod_lt j hpositive
    have heven := h _ hn (2 * (j % (partition.inputFeatures / 2))) (by omega)
    have hodd := h _ hn (2 * (j % (partition.inputFeatures / 2)) + 1) (by omega)
    rw [Nat.mul_div_cancel_left _ Nat.two_pos, Nat.div_add_mod', Nat.mul_mod_right] at heven
    rw [Nat.mul_add_div Nat.two_pos, Nat.mul_add_mod, Nat.add_zero, Nat.div_add_mod'] at hodd
    exact eq_of_nibbles heven hodd
  · have hfour : partition.weightBits ≠ 4 := by omega
    simp only [hfour, ↓reduceIte] at h
    rw [hbits, Nat.mul_div_cancel _ (by omega)] at hj
    have hpositive : 0 < partition.inputFeatures :=
      Nat.pos_of_mul_pos_left (hj.trans_le' (Nat.zero_le j))
    have hbyte := h _ ((Nat.div_lt_iff_lt_mul hpositive).mpr hj) _ (Nat.mod_lt j hpositive)
    rwa [Nat.div_add_mod'] at hbyte

lemma sourceScale_inj (hwell : partition.WellFormed) (hgroup : partition.blockScaleGroupK = 16)
    {source source' : SourceBytes}
    (h : ∀ n < partition.outputFeatures, ∀ g < partition.inputFeatures / 16,
      sourceScale partition source n g = sourceScale partition source' n g) {j : ℕ}
    (hj : j < expectedScaleBytes partition) :
    source.blockScale.contents j = source'.blockScale.contents j := by
  obtain ⟨-, hinput⟩ := hwell.sizes
  rw [expectedScaleBytes, if_neg (by omega), hgroup, partitionValues,
    Nat.mul_div_assoc _ (by omega)] at hj
  have hpositive : 0 < partition.inputFeatures / 16 :=
    Nat.pos_of_mul_pos_left (hj.trans_le' (Nat.zero_le j))
  have hbyte := h _ ((Nat.div_lt_iff_lt_mul hpositive).mpr hj) _ (Nat.mod_lt j hpositive)
  unfold sourceScale at hbyte
  rwa [Nat.div_add_mod'] at hbyte

-- A payload gives back the sources stored in it.
lemma Stores.sources_eq (hvalid : layout.valid = true) (h : Stores layout sources payload)
    (h' : Stores layout sources' payload') (hi : layout.partitions[i]? = some partition)
    (hsame : ∀ offset < layout.payloadBytes, payload offset = payload' offset) :
    (∀ j < expectedWeightBytes partition,
      (sources.sources i).packedWeight.contents j =
        (sources'.sources i).packedWeight.contents j) ∧
    ∀ j < expectedScaleBytes partition,
      (sources.sources i).blockScale.contents j = (sources'.sources i).blockScale.contents j := by
  have htable := valid_table hvalid
  have hwell := htable.partitions partition (List.mem_of_getElem? hi)
  have hbound := (htable.stacked.bounds hi).2
  have hp := (stores_iff hvalid).mp h i partition hi
  have hp' := (stores_iff hvalid).mp h' i partition hi
  refine ⟨fun j hj => sourceWeight_inj hwell (fun n hn k hk => ?_) hj, fun j hj => ?_⟩
  · rw [← hp.weights n hn k hk, ← hp'.weights n hn k hk]
    unfold storedWeight
    rw [hsame _ ((hwell.weightOffset_inside hn hk).2.trans_le hbound)]
  · have hgroup : partition.blockScaleGroupK = 16 := by
      obtain ⟨-, hgroup, -⟩ | ⟨-, hgroup, -⟩ := hwell.format
      · exact hgroup
      · rw [expectedScaleBytes, if_pos hgroup] at hj
        omega
    refine sourceScale_inj hwell hgroup (fun n hn g hg => ?_) hj
    rw [← hp.scales hgroup n hn g hg, ← hp'.scales hgroup n hn g hg]
    exact hsame _ ((hwell.scaleOffset_inside hgroup hn hg).2.trans_le hbound)

end Accepted

-- In every cell the table of the first one gives the address of the weight and the block scale.
structure GlobalMaps (layout : PackedLayout) (i : ℕ) (partition : PackedPartition)
    (maps : LocalMaps) : Prop where
  weights : ∀ nTile < partition.nTiles, ∀ kTile < partition.kTiles,
    ∀ n < projectionBlockN, ∀ k < projectionBlockK, ∃ cell a,
      packedCell PackedLayout.valid layout i nTile kTile = some cell ∧
      packedWeightAddress PackedLayout.valid layout i (nTile * projectionBlockN + n)
        (kTile * projectionBlockK + k) = some a ∧
      cell.weightOffset + (maps.weights (n * projectionBlockK + k)).byteOffset = a.byteOffset ∧
      (maps.weights (n * projectionBlockK + k)).nibble = a.nibble
  scales : partition.blockScaleGroupK = 16 → ∀ nTile < partition.nTiles,
    ∀ kTile < partition.kTiles, ∀ n < projectionBlockN, ∀ g < projectionBlockK / 16, ∃ cell a,
      packedCell PackedLayout.valid layout i nTile kTile = some cell ∧
      packedScaleAddress PackedLayout.valid layout i (nTile * projectionBlockN + n)
        (kTile * (projectionBlockK / 16) + g) = some a ∧
      cell.blockScaleOffset + maps.scales (n * (projectionBlockK / 16) + g) = a.byteOffset

lemma MapsExact.global {layout : PackedLayout} {partition : PackedPartition} {maps : LocalMaps}
    {i : ℕ} (hvalid : layout.valid = true) (hi : layout.partitions[i]? = some partition)
    (hmaps : MapsExact partition maps) : GlobalMaps layout i partition maps := by
  have htable := valid_table hvalid
  have hwell := htable.partitions partition (List.mem_of_getElem? hi)
  obtain ⟨houtput, hinput⟩ := hwell.sizes
  constructor
  · intro nTile hnTile kTile hkTile n hn k hk
    change n < 256 at hn
    change k < 64 at hk
    have htile : (nTile, kTile) ∈ tiles partition := mem_tiles.mpr ⟨hnTile, hkTile⟩
    obtain ⟨a, ha, hoffset, hnibble⟩ := @packedWeightAddress_ok PackedLayout.valid layout partition
      i (nTile * 256 + n) (kTile * 64 + k) htable hvalid hi (by omega) (by omega)
    obtain ⟨hlocal, hlocal'⟩ := local_weight hmaps hn hk i (nTile, kTile)
    exact ⟨_, a, packedCell_cellAt hvalid hi htile, ha, hlocal.trans hoffset.symm,
      hlocal'.trans hnibble.symm⟩
  · intro hgroup nTile hnTile kTile hkTile n hn g hg
    change n < 256 at hn
    change g < 4 at hg
    have htile : (nTile, kTile) ∈ tiles partition := mem_tiles.mpr ⟨hnTile, hkTile⟩
    obtain ⟨a, ha, hoffset⟩ := @packedScaleAddress_ok PackedLayout.valid layout partition i
      (nTile * 256 + n) (kTile * 4 + g) htable hvalid hi hgroup (by omega) (by omega)
    exact ⟨_, a, packedCell_cellAt hvalid hi htile, ha,
      (local_scale hmaps hgroup hn hg i (nTile, kTile)).trans hoffset.symm⟩

-- What packing accepted sources gives; another set of the same role is compared byte by byte.
structure LosslessPacking (sha256 : List UInt8 → Digest) (sources : SourceSet)
    (layout : PackedLayout) (payload : ℕ → UInt8) : Prop where
  maps : ∀ i partition, layout.partitions[i]? = some partition →
    ∃ maps, buildLocalMaps layout i = some maps ∧ GlobalMaps layout i partition maps
  stored : Stores layout sources payload
  scanned : scanPayloadScales layout layout.payloadBytes payload = .ok ⟨⟩
  verified : verifyPayloadBijection layout sources layout.payloadBytes payload = .ok ⟨⟩
  exact : ∀ arbitrary : ℕ → UInt8,
    verifyPayloadBijection layout sources layout.payloadBytes arbitrary = .ok ⟨⟩ ↔
      ∀ offset < layout.payloadBytes, arbitrary offset = payload offset
  injective : ∀ sources' inventory' payload', inspectSources sha256 sources' = .ok inventory' →
    sources'.role = sources.role →
    transformPayload layout sources' layout.payloadBytes = .ok payload' →
    (∀ offset < layout.payloadBytes, payload offset = payload' offset) →
    ∀ i < sources.sourceCount,
      (sources.sources i).packedWeight.toList = (sources'.sources i).packedWeight.toList ∧
      (sources.sources i).blockScale.toList = (sources'.sources i).blockScale.toList

lemma Bytes.toList_congr {left right : Bytes} (hbytes : left.bytes = right.bytes)
    (h : ∀ j < left.bytes, left.contents j = right.contents j) : left.toList = right.toList := by
  unfold Bytes.toList
  rw [← hbytes]
  exact List.map_congr_left fun j hj => h j (List.mem_range.mp hj)

theorem packing_lossless (sha256 : List UInt8 → Digest) (sources : SourceSet)
    (inventory : SourceInventory) (h : inspectSources sha256 sources = .ok inventory) :
    ∃ payload, transformPayload (packedLayout sources.role) sources
        (packedLayout sources.role).payloadBytes = .ok payload ∧
      LosslessPacking sha256 sources (packedLayout sources.role) payload := by
  obtain ⟨hvalid, hcount, haccepted⟩ := inspectSources_ok h
  have hstores := @transform_stores _ sources hvalid
  refine ⟨_, transformPayload_ok hvalid, ?_⟩
  constructor
  case maps =>
    intro i partition hi
    obtain ⟨maps, hbuild, hmaps⟩ := buildLocalMaps_ok hvalid hi
    exact ⟨maps, hbuild, hmaps.global hvalid hi⟩
  case stored => exact hstores
  case scanned => exact scanPayloadScales_ok hvalid haccepted hstores
  case verified => exact (verifyPayloadBijection_ok hvalid).mpr hstores
  case exact =>
    intro arbitrary
    rw [verifyPayloadBijection_ok hvalid]
    constructor
    · intro harbitrary offset hoffset
      exact harbitrary.unique hvalid hstores hoffset
    · exact hstores.congr hvalid
  case injective =>
    intro sources' inventory' payload' h' hrole htransform hsame i hi
    rw [transformPayload_ok hvalid] at htransform
    obtain rfl := Except.ok.inj htransform
    obtain ⟨-, -, haccepted'⟩ := inspectSources_ok h'
    rw [hrole] at haccepted'
    have hpartition := List.getElem?_eq_getElem (hcount ▸ hi)
    obtain ⟨hweights, hscales⟩ := hstores.sources_eq hvalid (transform_stores hvalid) hpartition
      hsame
    have hleft := haccepted i _ hpartition
    have hright := haccepted' i _ hpartition
    constructor
    · refine Bytes.toList_congr (hleft.weightBytes.trans hright.weightBytes.symm) ?_
      rw [hleft.weightBytes]
      exact hweights
    · refine Bytes.toList_congr (hleft.scaleBytes.trans hright.scaleBytes.symm) ?_
      rw [hleft.scaleBytes]
      exact hscales

def sampleSources : SourceSet where
  role := .nvFp4Down
  inventoryIdentity := 1
  sourceCount := 1
  sources index :=
    if index = 0 then
      { logicalRole := .nvFp4Down
        tensorIdentity := 7
        outputFeatures := 5120
        inputFeatures := 17408
        packedWeight := ⟨4096, 44564480, fun j => UInt8.ofNat j⟩
        blockScale := ⟨1073741824, 5570560, fun _ => 0x38⟩
        tensorScaleBits := 0x3f800000 }
    else {}

def sampleSha256 (_ : List UInt8) : Digest := Vector.replicate 32 1

def sampleInspection : Inspection where
  inventory :=
    { identity := 1
      role := .nvFp4Down
      sourceCount := 1 }

def sampleBinding : SourceBinding :=
  packedSourceBinding (packedLayout .nvFp4Down) 0 7 (Vector.replicate 32 1)
    (Vector.replicate 32 1) 0x3f800000

def inspectedSample : Inspection where
  ranges := sourceRanges (sampleSources.sources 0)
  inventory := { sampleInspection.inventory with
    sources := Function.update sampleInspection.inventory.sources 0 sampleBinding }

lemma sampleSources_first :
    inspectSource sampleSha256 (packedLayout .nvFp4Down) sampleSources sampleInspection 0 =
      .ok inspectedSample := by
  have hscales : ¬ ∃ scale < (sampleSources.sources 0).blockScale.bytes,
      blockScaleCodeIsForbidden ((sampleSources.sources 0).blockScale.contents scale) := by
    rintro ⟨scale, -, hforbidden⟩
    exact absurd hforbidden (by decide : ¬ blockScaleCodeIsForbidden 0x38)
  unfold inspectSource
  dsimp only
  rw [if_neg (by decide), bind_ok]
  refine ⟨⟨⟩, rfl, ?_⟩
  rw [guard_ok, guard_ok]
  refine ⟨by decide, hscales, rfl⟩

lemma sampleSources_accepted :
    inspectSources sampleSha256 sampleSources = .ok inspectedSample.inventory := by
  unfold inspectSources
  dsimp only
  rw [guard_ok, guard_ok, guard_ok, bind_ok]
  refine ⟨by decide, by decide, by decide, inspectedSample, ?_, if_pos (by decide)⟩
  change List.foldlM _ sampleInspection [0, 1, 2] = _
  rw [List.foldlM_cons, bind_ok]
  exact ⟨inspectedSample, sampleSources_first, rfl⟩

theorem packing_lossless_sample :
    ∃ payload, transformPayload (packedLayout .nvFp4Down) sampleSources
        (packedLayout .nvFp4Down).payloadBytes = .ok payload ∧
      LosslessPacking sampleSha256 sampleSources (packedLayout .nvFp4Down) payload :=
  packing_lossless sampleSha256 sampleSources inspectedSample.inventory sampleSources_accepted

end Qwen3xOrin.Packed
