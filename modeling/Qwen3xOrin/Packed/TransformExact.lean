import Qwen3xOrin.Packed.Stored

/-! The transform writes every weight and block scale of the sources at its packed address, no two
of its writes meet, and the verifier accepts a payload exactly when the sources are stored in it. -/

namespace Qwen3xOrin.Packed

open Io Library

section Verify

variable {layout : PackedLayout} {sources : SourceSet} {partition : PackedPartition}
  {maps : LocalMaps} {payload : ℕ → UInt8} {i : ℕ}

lemma packedCell_cellAt (hvalid : layout.valid = true)
    (hi : layout.partitions[i]? = some partition) {tile : ℕ × ℕ} (htile : tile ∈ tiles partition) :
    packedCell PackedLayout.valid layout i tile.1 tile.2 = some (cellAt partition i tile) :=
  packedCell_eq (valid_table hvalid) hvalid hi (mem_tiles.mp htile).1 (mem_tiles.mp htile).2

lemma mem_zipIdx {indexed : PackedPartition × ℕ} :
    indexed ∈ layout.partitions.zipIdx ↔ layout.partitions[indexed.2]? = some indexed.1 :=
  List.mem_zipIdx_iff_getElem?

-- Rows and columns of a partition are those of its tiles.
lemma forall_tiles (h : partition.WellFormed) {width : ℕ} (hwidth : 0 < width)
    {P : ℕ → ℕ → Prop} :
    (∀ tile ∈ tiles partition, ∀ n < 256, ∀ k < width,
      P (tile.1 * 256 + n) (tile.2 * width + k)) ↔
    ∀ n < partition.outputFeatures, ∀ k < partition.kTiles * width, P n k := by
  obtain ⟨houtput, -⟩ := h.sizes
  constructor
  · intro hall n hn k hk
    have htile : (n / 256, k / width) ∈ tiles partition :=
      mem_tiles.mpr ⟨by dsimp only; omega, (Nat.div_lt_iff_lt_mul hwidth).mpr hk⟩
    have hplace := hall _ htile (n % 256) (Nat.mod_lt n (by omega)) (k % width)
      (Nat.mod_lt k hwidth)
    rwa [Nat.div_add_mod', Nat.div_add_mod'] at hplace
  · intro hall tile htile n hn k hk
    obtain ⟨hrow, hcolumn⟩ := mem_tiles.mp htile
    exact hall _ (by omega) _ (Radix.digits_lt hcolumn hk)

lemma verifyCell_ok (hvalid : layout.valid = true) (hi : layout.partitions[i]? = some partition)
    (hmaps : MapsExact partition maps) {tile : ℕ × ℕ} (htile : tile ∈ tiles partition) :
    verifyCell layout sources layout.payloadBytes payload i partition maps tile = .ok ⟨⟩ ↔
      (∀ n < 256, ∀ k < 64, storedWeight partition payload
          (partition.weightOffset (tile.1 * 256 + n) (tile.2 * 64 + k))
          (partition.weightNibble (tile.1 * 256 + n) (tile.2 * 64 + k)) =
        sourceWeight partition (sources.sources i) (tile.1 * 256 + n) (tile.2 * 64 + k)) ∧
      (partition.blockScaleGroupK = 16 → ∀ n < 256, ∀ g < 4,
        payload (partition.scaleOffset (tile.1 * 256 + n) (tile.2 * 4 + g)) =
          sourceScale partition (sources.sources i) (tile.1 * 256 + n) (tile.2 * 4 + g)) := by
  have hwell := (valid_table hvalid).partitions partition (List.mem_of_getElem? hi)
  have hfits := cell_fits (valid_table hvalid) hi htile
  have hrows : (∀ localN < projectionBlockN, rowMatches partition (sources.sources i) maps
      (cellAt partition i tile) tile.1 tile.2 payload localN) ↔ _ :=
    forall₂_congr fun n hn => rowMatches_iff hmaps i tile payload hn
  unfold verifyCell
  rw [packedCell_cellAt hvalid hi htile]
  dsimp only
  rw [guard_ok, guard_ok, guard_ok, hrows, not_not, not_and, not_not, not_lt]
  have hzero : partition.blockScaleGroupK ≠ 0 ↔ partition.blockScaleGroupK = 16 := by
    have := hwell.format
    omega
  rw [hzero]
  constructor
  · rintro ⟨-, hweights, hscales, -⟩
    exact ⟨hweights, fun hgroup n hn =>
      (scaleRowMatches_iff hmaps hgroup i tile payload hn).mp (hscales hgroup n hn)⟩
  · rintro ⟨hweights, hscales⟩
    refine ⟨hfits, hweights, fun hgroup n hn => ?_, rfl⟩
    exact (scaleRowMatches_iff hmaps hgroup i tile payload hn).mpr (hscales hgroup n hn)

lemma verifyPartition_ok (hvalid : layout.valid = true)
    (hi : layout.partitions[i]? = some partition) (hmaps : MapsExact partition maps) :
    checkAll (verifyCell layout sources layout.payloadBytes payload i partition maps)
        (tiles partition) = .ok ⟨⟩ ↔
      PartitionStores partition (sources.sources i) payload := by
  have hwell := (valid_table hvalid).partitions partition (List.mem_of_getElem? hi)
  obtain ⟨-, hinput⟩ := hwell.sizes
  have hcolumns : partition.inputFeatures = partition.kTiles * 64 := by omega
  have hgroups : partition.inputFeatures / 16 = partition.kTiles * 4 := by omega
  rw [checkAll_ok]
  constructor
  · intro h
    have hcells := fun tile htile => (verifyCell_ok hvalid hi hmaps htile).mp (h tile htile)
    refine ⟨?_, fun hgroup => ?_⟩
    · rw [hcolumns]
      exact (forall_tiles hwell (by omega)).mp fun tile htile => (hcells tile htile).1
    · rw [hgroups]
      exact (forall_tiles hwell (by omega)).mp fun tile htile => (hcells tile htile).2 hgroup
  · intro h tile htile
    have hweights := h.weights
    have hscales := h.scales
    rw [hcolumns] at hweights
    rw [hgroups] at hscales
    rw [verifyCell_ok hvalid hi hmaps htile]
    exact ⟨(forall_tiles hwell (by omega)).mpr hweights tile htile,
      fun hgroup => (forall_tiles hwell (by omega)).mpr (hscales hgroup) tile htile⟩

lemma verifyPayloadBijection_ok (hvalid : layout.valid = true) :
    verifyPayloadBijection layout sources layout.payloadBytes payload = .ok ⟨⟩ ↔
      Stores layout sources payload := by
  rw [stores_iff hvalid]
  unfold verifyPayloadBijection
  rw [checkAll_ok]
  constructor
  · intro h i partition hi
    have hpartition := h (partition, i) (mem_zipIdx.2 hi)
    obtain ⟨maps, hbuild, hmaps⟩ := buildLocalMaps_ok hvalid hi
    dsimp only at hpartition
    rw [hbuild] at hpartition
    exact (verifyPartition_ok hvalid hi hmaps).mp hpartition
  · rintro h ⟨partition, i⟩ hmem
    have hi := mem_zipIdx.1 hmem
    obtain ⟨maps, hbuild, hmaps⟩ := buildLocalMaps_ok hvalid hi
    dsimp only at hi ⊢
    rw [hbuild]
    exact (verifyPartition_ok hvalid hi hmaps).mpr (h i partition hi)

end Verify

section Writes

def PayloadWrite.offset : PayloadWrite → ℕ
  | .nibble offset _ _ => offset
  | .byte offset _ => offset

-- A payload is read nibble by nibble: at an offset, the low or the high one.
def PayloadWrite.touches : PayloadWrite → ℕ × ℕ → Prop
  | .nibble offset index _, place => offset = place.1 ∧ index % 2 = place.2 % 2
  | .byte offset _, place => offset = place.1

def PayloadWrite.written : PayloadWrite → ℕ × ℕ → UInt8
  | .nibble _ _ value, _ => value &&& 0x0f
  | .byte _ value, place => readNibble value place.2

lemma payload_law :
    WriteLaw PayloadWrite.apply (fun payload (place : ℕ × ℕ) => readNibble (payload place.1) place.2)
      PayloadWrite.touches PayloadWrite.written where
  hit := by
    rintro payload (⟨offset, index, value⟩ | ⟨offset, value⟩) ⟨place, nibble⟩ h
    · obtain ⟨rfl, hparity⟩ := h
      dsimp only [PayloadWrite.apply, PayloadWrite.written]
      rw [Function.update_self, readNibble_parity, ← hparity, ← readNibble_parity,
        readNibble_writeNibble]
    · obtain rfl : offset = place := h
      dsimp only [PayloadWrite.apply, PayloadWrite.written]
      rw [Function.update_self]
  miss := by
    rintro payload (⟨offset, index, value⟩ | ⟨offset, value⟩) ⟨place, nibble⟩ h
    · dsimp only [PayloadWrite.apply]
      by_cases hoffset : place = offset
      · subst hoffset
        rw [Function.update_self]
        exact readNibble_writeNibble_other _ _ fun hparity => h ⟨rfl, hparity⟩
      · rw [Function.update_of_ne hoffset]
    · dsimp only [PayloadWrite.apply]
      rw [Function.update_of_ne fun heq => h heq.symm]

lemma offset_of_touches {write : PayloadWrite} {place : ℕ × ℕ}
    (h : write.touches place) : write.offset = place.1 := by
  cases write with
  | nibble offset index value => exact h.1
  | byte offset value => exact h

def weightWrite (partition : PackedPartition) (source : SourceBytes) (n k : ℕ) : PayloadWrite :=
  if partition.weightBits = 4 then
    .nibble (partition.weightOffset n k) (partition.weightNibble n k)
      (source.packedWeight.contents (n * (partition.inputFeatures / 2) + k / 2) >>>
        UInt8.ofNat (4 * (k % 2)))
  else .byte (partition.weightOffset n k)
    (source.packedWeight.contents (n * partition.inputFeatures + k))

def scaleWrite (partition : PackedPartition) (source : SourceBytes) (n group : ℕ) :
    PayloadWrite :=
  .byte (partition.scaleOffset n group) (sourceScale partition source n group)

variable {partition : PackedPartition} {source : SourceBytes} {maps : LocalMaps}

lemma weightWrite_offset (n k : ℕ) :
    (weightWrite partition source n k).offset = partition.weightOffset n k := by
  unfold weightWrite
  split_ifs <;> rfl

-- The two weights of a source byte go to their own places.
lemma nibble_pair (hmaps : MapsExact partition maps) (hbits : partition.weightBits = 4) (i : ℕ)
    (tile : ℕ × ℕ) {n half pair : ℕ} (hn : n < 256) (hhalf : half < 32) (hpair : pair < 2) :
    PayloadWrite.nibble
        ((cellAt partition i tile).weightOffset +
          (maps.weights (n * 64 + 2 * half + pair)).byteOffset)
        (maps.weights (n * 64 + 2 * half + pair)).nibble
        (source.packedWeight.contents ((tile.1 * 256 + n) * (partition.inputFeatures / 2) +
          (tile.2 * 64 + 2 * half) / 2) >>> UInt8.ofNat (4 * pair)) =
      weightWrite partition source (tile.1 * 256 + n) (tile.2 * 64 + (2 * half + pair)) := by
  obtain ⟨hoffset, hnibble⟩ := local_weight hmaps hn (k := 2 * half + pair) (by omega) i tile
  have hbyte : (tile.2 * 64 + (2 * half + pair)) / 2 = (tile.2 * 64 + 2 * half) / 2 := by omega
  have hparity : (tile.2 * 64 + (2 * half + pair)) % 2 = pair := by omega
  unfold weightWrite
  rw [if_pos hbits, ← hoffset, ← hnibble, hbyte, hparity, ← Nat.add_assoc (n * 64)]

lemma mem_rowWrites (hmaps : MapsExact partition maps) (i : ℕ) (tile : ℕ × ℕ) {n : ℕ}
    (hn : n < 256) {write : PayloadWrite} :
    write ∈ rowWrites partition source maps (cellAt partition i tile) tile.1 tile.2 n ↔
      ∃ k < 64, write =
        weightWrite partition source (tile.1 * 256 + n) (tile.2 * 64 + k) := by
  unfold rowWrites
  split_ifs with hbits
  · simp only [nibbleRowWrites, List.mem_flatMap, List.mem_map, List.mem_range]
    constructor
    · rintro ⟨half, hhalf, pair, hpair, rfl⟩
      change half < 32 at hhalf
      exact ⟨2 * half + pair, by omega, nibble_pair hmaps hbits i tile hn hhalf hpair⟩
    · rintro ⟨k, hk, rfl⟩
      have hhalf : k / 2 < 32 := by omega
      have hpair := Nat.mod_lt k Nat.two_pos
      refine ⟨k / 2, hhalf, k % 2, hpair, ?_⟩
      conv_rhs => rw [← Nat.div_add_mod k 2]
      exact nibble_pair hmaps hbits i tile hn hhalf hpair
  · have hsame : ∀ k < 64,
        PayloadWrite.byte
            ((cellAt partition i tile).weightOffset + (maps.weights (n * 64 + k)).byteOffset)
            (source.packedWeight.contents
              ((tile.1 * 256 + n) * partition.inputFeatures + (tile.2 * 64 + k))) =
          weightWrite partition source (tile.1 * 256 + n) (tile.2 * 64 + k) := by
      intro k hk
      unfold weightWrite
      rw [if_neg hbits, ← (local_weight hmaps hn hk i tile).1]
    simp only [byteRowWrites, List.mem_map, List.mem_range]
    constructor
    · rintro ⟨k, hk, rfl⟩
      exact ⟨k, hk, hsame k hk⟩
    · rintro ⟨k, hk, rfl⟩
      exact ⟨k, hk, hsame k hk⟩

lemma mem_scaleRowWrites (hmaps : MapsExact partition maps)
    (hgroup : partition.blockScaleGroupK = 16) (i : ℕ) (tile : ℕ × ℕ) {n : ℕ} (hn : n < 256)
    {write : PayloadWrite} :
    write ∈ scaleRowWrites partition source maps (cellAt partition i tile) tile.1 tile.2 n ↔
      ∃ g < 4, write = scaleWrite partition source (tile.1 * 256 + n) (tile.2 * 4 + g) := by
  have hsame : ∀ g < 4,
      PayloadWrite.byte ((cellAt partition i tile).blockScaleOffset + maps.scales (n * 4 + g))
          (source.blockScale.contents
            ((tile.1 * 256 + n) * (partition.inputFeatures / 16) + (tile.2 * 4 + g))) =
        scaleWrite partition source (tile.1 * 256 + n) (tile.2 * 4 + g) := by
    intro g hg
    unfold scaleWrite sourceScale
    rw [local_scale hmaps hgroup hn hg i tile]
  simp only [scaleRowWrites, hgroup, List.mem_map, List.mem_range]
  constructor
  · rintro ⟨g, hg, rfl⟩
    exact ⟨g, hg, hsame g hg⟩
  · rintro ⟨g, hg, rfl⟩
    exact ⟨g, hg, hsame g hg⟩

-- What a partition's writes are: its weights and, if it has them, its block scales.
inductive PartitionWrite (partition : PackedPartition) (source : SourceBytes) :
    PayloadWrite → Prop
  | weight {n k : ℕ} (hn : n < partition.outputFeatures) (hk : k < partition.inputFeatures) :
    PartitionWrite partition source (weightWrite partition source n k)
  | scale {n g : ℕ} (hgroup : partition.blockScaleGroupK = 16)
      (hn : n < partition.outputFeatures) (hg : g < partition.inputFeatures / 16) :
    PartitionWrite partition source (scaleWrite partition source n g)

def partitionWrites (partition : PackedPartition) (source : SourceBytes) (maps : LocalMaps)
    (i : ℕ) : List PayloadWrite :=
  (tiles partition).flatMap fun tile =>
    cellWrites partition source maps (cellAt partition i tile) tile.1 tile.2

lemma mem_partitionWrites (hwell : partition.WellFormed) (hmaps : MapsExact partition maps)
    (i : ℕ) {write : PayloadWrite} :
    write ∈ partitionWrites partition source maps i ↔ PartitionWrite partition source write := by
  obtain ⟨houtput, hinput⟩ := hwell.sizes
  have hzero : partition.blockScaleGroupK ≠ 0 ↔ partition.blockScaleGroupK = 16 := by
    have := hwell.format
    omega
  unfold partitionWrites cellWrites
  simp only [List.mem_flatMap, List.mem_append]
  constructor
  · rintro ⟨tile, htile, ⟨n, hn, hwrite⟩ | hwrite⟩
    · rw [List.mem_range] at hn
      obtain ⟨k, hk, rfl⟩ := (mem_rowWrites hmaps i tile hn).mp hwrite
      obtain ⟨hrow, hcolumn⟩ := mem_tiles.mp htile
      change n < 256 at hn
      exact .weight (by omega) (by omega)
    · by_cases hgroup : partition.blockScaleGroupK ≠ 0
      · rw [if_pos hgroup, List.mem_flatMap] at hwrite
        obtain ⟨n, hn, hwrite⟩ := hwrite
        rw [List.mem_range] at hn
        obtain ⟨g, hg, rfl⟩ := (mem_scaleRowWrites hmaps (hzero.mp hgroup) i tile hn).mp hwrite
        obtain ⟨hrow, hcolumn⟩ := mem_tiles.mp htile
        change n < 256 at hn
        exact .scale (hzero.mp hgroup) (by omega) (by omega)
      · rw [if_neg hgroup] at hwrite
        cases hwrite
  · rintro (⟨hn, hk⟩ | ⟨hgroup, hn, hg⟩)
    · rename_i n k
      refine ⟨(n / 256, k / 64), mem_tiles.mpr ⟨by dsimp only; omega, by dsimp only; omega⟩,
        Or.inl ⟨n % 256, List.mem_range.mpr (Nat.mod_lt n (by decide)), ?_⟩⟩
      refine (mem_rowWrites hmaps i (n / 256, k / 64) (Nat.mod_lt n (by omega))).mpr
        ⟨k % 64, Nat.mod_lt k (by omega), ?_⟩
      rw [Nat.div_add_mod', Nat.div_add_mod']
    · rename_i n g
      refine ⟨(n / 256, g / 4), mem_tiles.mpr ⟨by dsimp only; omega, by dsimp only; omega⟩,
        Or.inr ?_⟩
      rw [if_pos (hzero.mpr hgroup), List.mem_flatMap]
      refine ⟨n % 256, List.mem_range.mpr (Nat.mod_lt n (by decide)), ?_⟩
      refine (mem_scaleRowWrites hmaps hgroup i (n / 256, g / 4) (Nat.mod_lt n (by omega))).mpr
        ⟨g % 4, Nat.mod_lt g (by omega), ?_⟩
      rw [Nat.div_add_mod', Nat.div_add_mod']

end Writes

section Transform

variable {layout : PackedLayout} {sources : SourceSet} {i j : ℕ}
  {partition other : PackedPartition}

def payloadWrites (layout : PackedLayout) (sources : SourceSet) : List PayloadWrite :=
  layout.partitions.zipIdx.flatMap fun indexed =>
    partitionWrites indexed.1 (sources.sources indexed.2)
      ((buildLocalMaps layout indexed.2).getD {}) indexed.2

lemma mem_payloadWrites (hvalid : layout.valid = true) {write : PayloadWrite} :
    write ∈ payloadWrites layout sources ↔ ∃ i partition,
      layout.partitions[i]? = some partition ∧
        PartitionWrite partition (sources.sources i) write := by
  have hexact : ∀ i partition, layout.partitions[i]? = some partition →
      (write ∈ partitionWrites partition (sources.sources i)
        ((buildLocalMaps layout i).getD {}) i ↔
        PartitionWrite partition (sources.sources i) write) := by
    intro i partition hi
    obtain ⟨maps, hbuild, hmaps⟩ := buildLocalMaps_ok hvalid hi
    rw [hbuild]
    exact mem_partitionWrites
      ((valid_table hvalid).partitions partition (List.mem_of_getElem? hi)) hmaps i
  unfold payloadWrites
  rw [List.mem_flatMap]
  constructor
  · rintro ⟨⟨partition, i⟩, hmem, hwrite⟩
    have hi := mem_zipIdx.1 hmem
    exact ⟨i, partition, hi, (hexact i partition hi).mp hwrite⟩
  · rintro ⟨i, partition, hi, hwrite⟩
    exact ⟨(partition, i), mem_zipIdx.2 hi, (hexact i partition hi).mpr hwrite⟩

lemma transformPartition_ok (hvalid : layout.valid = true)
    (hi : layout.partitions[i]? = some partition) (payload : ℕ → UInt8) :
    transformPartition layout sources layout.payloadBytes payload (partition, i) =
      .ok ((partitionWrites partition (sources.sources i) ((buildLocalMaps layout i).getD {}) i).foldl
        PayloadWrite.apply payload) := by
  obtain ⟨maps, hbuild, -⟩ := buildLocalMaps_ok hvalid hi
  unfold transformPartition
  dsimp only
  rw [hbuild]
  apply foldlM_writes
  intro tile htile payload
  have hfits := cell_fits (valid_table hvalid) hi htile
  unfold transformCell
  rw [packedCell_cellAt hvalid hi htile]
  dsimp only
  have hfits' : ¬ layout.payloadBytes <
      (cellAt partition i tile).payloadOffset + (cellAt partition i tile).cellBytes :=
    not_lt.mpr hfits
  rw [if_neg hfits']
  rfl

lemma transformPayload_ok (hvalid : layout.valid = true) :
    transformPayload layout sources layout.payloadBytes =
      .ok ((payloadWrites layout sources).foldl PayloadWrite.apply fun _ => 0) := by
  unfold transformPayload
  apply foldlM_writes
  rintro ⟨partition, i⟩ hmem payload
  exact transformPartition_ok hvalid (mem_zipIdx.1 hmem) payload

lemma PartitionWrite.inside (hwell : partition.WellFormed) {source : SourceBytes}
    {write : PayloadWrite} (h : PartitionWrite partition source write) :
    partition.payloadOffset ≤ write.offset ∧
      write.offset < partition.payloadOffset + partition.payloadBytes := by
  cases h with
  | weight hn hk =>
    rw [weightWrite_offset]
    exact hwell.weightOffset_inside hn hk
  | scale hgroup hn hg => exact hwell.scaleOffset_inside hgroup hn hg

lemma weightNibble_lt (n k : ℕ) : partition.weightNibble n k < 2 := by
  unfold PackedPartition.weightNibble slotNibble
  split_ifs
  · exact Nat.mod_lt _ Nat.two_pos
  · exact Nat.two_pos

lemma weightWrite_unique (hwell : partition.WellFormed) {source : SourceBytes} {n k n' k' : ℕ}
    (hk : k < partition.inputFeatures) (hk' : k' < partition.inputFeatures) {place : ℕ × ℕ}
    (h : (weightWrite partition source n k).touches place)
    (h' : (weightWrite partition source n' k').touches place) : n = n' ∧ k = k' := by
  have hoffset := (offset_of_touches h).trans (offset_of_touches h').symm
  rw [weightWrite_offset, weightWrite_offset] at hoffset
  refine hwell.weight_unique hk hk' hoffset ?_
  unfold weightWrite at h h'
  split_ifs at h h' with hbits
  · have hn : partition.weightNibble n k < 2 := weightNibble_lt n k
    have hn' : partition.weightNibble n' k' < 2 := weightNibble_lt n' k'
    have hsame := h.2.trans h'.2.symm
    rwa [Nat.mod_eq_of_lt hn, Nat.mod_eq_of_lt hn'] at hsame
  · unfold PackedPartition.weightNibble slotNibble
    rw [if_neg hbits, if_neg hbits]

lemma weight_scale_apart (hwell : partition.WellFormed) (hgroup : partition.blockScaleGroupK = 16)
    (n k n' g : ℕ) : partition.weightOffset n k ≠ partition.scaleOffset n' g := by
  intro heq
  have hslot := cellSlot_mod_lt n k
  obtain ⟨-, hsame⟩ := Radix.digits_inj (hwell.slotByte_lt_cell hslot)
    (hwell.scaleByte_lt hgroup n' g) (Nat.add_left_cancel heq)
  have := hwell.slotByte_lt hslot
  omega

-- No two writes of the transform meet.
lemma payloadWrites_apart (hvalid : layout.valid = true) {write write' : PayloadWrite}
    (h : write ∈ payloadWrites layout sources) (h' : write' ∈ payloadWrites layout sources)
    {place : ℕ × ℕ} (hplace : write.touches place) (hplace' : write'.touches place) :
    write = write' := by
  have htable := valid_table hvalid
  obtain ⟨i, partition, hi, h⟩ := (mem_payloadWrites hvalid).mp h
  obtain ⟨j, other, hj, h'⟩ := (mem_payloadWrites hvalid).mp h'
  have hwell := htable.partitions partition (List.mem_of_getElem? hi)
  have hoffset := (offset_of_touches hplace).trans (offset_of_touches hplace').symm
  obtain ⟨hlo, hhi⟩ := h.inside hwell
  obtain ⟨hlo', hhi'⟩ := h'.inside (htable.partitions other (List.mem_of_getElem? hj))
  rw [← hoffset] at hlo' hhi'
  obtain rfl := htable.stacked.unique hi hj hlo hhi hlo' hhi'
  obtain rfl := Option.some.inj (hi.symm.trans hj)
  cases h with
  | weight hn hk =>
    cases h' with
    | weight hn' hk' =>
      obtain ⟨rfl, rfl⟩ := weightWrite_unique hwell hk hk' hplace hplace'
      rfl
    | scale hgroup hn' hg' =>
      rw [weightWrite_offset] at hoffset
      exact absurd hoffset (weight_scale_apart hwell hgroup _ _ _ _)
  | scale hgroup hn hg =>
    cases h' with
    | weight hn' hk' =>
      rw [weightWrite_offset] at hoffset
      exact absurd hoffset.symm (weight_scale_apart hwell hgroup _ _ _ _)
    | scale _ hn' hg' =>
      obtain ⟨rfl, rfl⟩ := hwell.scale_unique hgroup hg hg' hoffset
      rfl

lemma transform_reads (hvalid : layout.valid = true) {write : PayloadWrite}
    (h : write ∈ payloadWrites layout sources) {place : ℕ × ℕ} (hplace : write.touches place) :
    readNibble ((payloadWrites layout sources).foldl PayloadWrite.apply (fun _ => 0) place.1)
      place.2 = write.written place := by
  refine payload_law.agreed ⟨write, h, hplace⟩ ?_ _
  intro write' h' hplace'
  rw [payloadWrites_apart hvalid h' h hplace' hplace]

lemma transform_byte (hvalid : layout.valid = true) {offset : ℕ} {value : UInt8}
    (h : .byte offset value ∈ payloadWrites layout sources) :
    (payloadWrites layout sources).foldl PayloadWrite.apply (fun _ => 0) offset = value :=
  eq_of_nibbles (@transform_reads _ _ hvalid _ h (offset, 0) rfl)
    (@transform_reads _ _ hvalid _ h (offset, 1) rfl)

lemma transform_stores (hvalid : layout.valid = true) :
    Stores layout sources ((payloadWrites layout sources).foldl PayloadWrite.apply fun _ => 0) := by
  rw [stores_iff hvalid]
  intro i partition hi
  refine ⟨fun n hn k hk => ?_, fun hgroup n hn g hg => ?_⟩
  · have hmem : weightWrite partition (sources.sources i) n k ∈ payloadWrites layout sources :=
      (mem_payloadWrites hvalid).mpr ⟨i, partition, hi, .weight hn hk⟩
    unfold storedWeight sourceWeight
    unfold weightWrite at hmem
    split_ifs at hmem ⊢ with hbits
    · exact @transform_reads _ _ hvalid _ hmem
        (partition.weightOffset n k, partition.weightNibble n k) ⟨rfl, rfl⟩
    · exact transform_byte hvalid hmem
  · exact transform_byte hvalid ((mem_payloadWrites hvalid).mpr ⟨i, partition, hi,
      .scale hgroup hn hg⟩)

end Transform

end Qwen3xOrin.Packed
