import Qwen3xOrin.Library.Guard
import Qwen3xOrin.Library.Loops
import Qwen3xOrin.Packed.Address

/-! Weight addresses of a well-formed table: every weight has its own byte and nibble of the weight
regions, and the reverse map finds it there. -/

namespace Qwen3xOrin.Packed

open Io Library

section Partitions

variable {cursor total i j offset : ℕ} {partitions : List PackedPartition}
  {partition other : PackedPartition}

lemma Stacked.le (h : Stacked cursor partitions total) : cursor ≤ total := by
  induction partitions generalizing cursor with
  | nil => exact h.le
  | cons first rest ih => exact (Nat.le_add_right _ _).trans (ih h.2)

lemma Stacked.bounds (h : Stacked cursor partitions total) (hi : partitions[i]? = some partition) :
    cursor ≤ partition.payloadOffset ∧
      partition.payloadOffset + partition.payloadBytes ≤ total := by
  induction partitions generalizing cursor i with
  | nil => simp at hi
  | cons first rest ih =>
    obtain ⟨hfirst, hrest⟩ := h
    cases i with
    | zero =>
      obtain rfl := Option.some.inj hi
      rw [hfirst]
      exact ⟨le_rfl, hrest.le⟩
    | succ i =>
      obtain ⟨h₁, h₂⟩ := ih hrest hi
      exact ⟨by omega, h₂⟩

lemma Stacked.before (h : Stacked cursor partitions total) (hij : i < j)
    (hi : partitions[i]? = some partition) (hj : partitions[j]? = some other) :
    partition.payloadOffset + partition.payloadBytes ≤ other.payloadOffset := by
  induction partitions generalizing cursor i j with
  | nil => simp at hi
  | cons first rest ih =>
    obtain ⟨hfirst, hrest⟩ := h
    obtain ⟨j, rfl⟩ : ∃ j', j = j' + 1 := ⟨j - 1, by omega⟩
    cases i with
    | zero =>
      obtain rfl := Option.some.inj hi
      rw [hfirst]
      exact (hrest.bounds hj).1
    | succ i => exact ih hrest (by omega) hi hj

lemma Stacked.cover (h : Stacked cursor partitions total) (hlo : cursor ≤ offset)
    (hhi : offset < total) : ∃ i : ℕ, ∃ partition, partitions[i]? = some partition ∧
      partition.payloadOffset ≤ offset ∧
      offset < partition.payloadOffset + partition.payloadBytes := by
  induction partitions generalizing cursor with
  | nil =>
    have : cursor = total := h
    omega
  | cons first rest ih =>
    obtain ⟨hfirst, hrest⟩ := h
    by_cases hin : offset < cursor + first.payloadBytes
    · exact ⟨0, first, rfl, by omega, by omega⟩
    · obtain ⟨i, partition, hi, hin⟩ := ih hrest (by omega)
      exact ⟨i + 1, partition, hi, hin⟩

lemma Stacked.unique (h : Stacked cursor partitions total)
    (hi : partitions[i]? = some partition) (hj : partitions[j]? = some other)
    (hlo : partition.payloadOffset ≤ offset)
    (hhi : offset < partition.payloadOffset + partition.payloadBytes)
    (hlo' : other.payloadOffset ≤ offset)
    (hhi' : offset < other.payloadOffset + other.payloadBytes) : i = j := by
  rcases lt_trichotomy i j with hij | hij | hij
  · have := h.before hij hi hj
    omega
  · exact hij
  · have := h.before hij hj hi
    omega

end Partitions

section Table

variable {admits : PackedLayout → Bool} {layout : PackedLayout} {partition : PackedPartition}
  {i : ℕ}

lemma partitionForOffset_eq (htable : PackedTable layout)
    (hi : layout.partitions[i]? = some partition) {offset : ℕ}
    (hlo : partition.payloadOffset ≤ offset)
    (hhi : offset < partition.payloadOffset + partition.payloadBytes) :
    packedPartitionForOffset layout offset = some i := by
  obtain ⟨hlt, rfl⟩ := List.getElem?_eq_some_iff.mp hi
  unfold packedPartitionForOffset
  rw [List.findIdx?_eq_some_iff_getElem]
  refine ⟨hlt, decide_eq_true ⟨hlo, by omega⟩, ?_⟩
  intro j hj
  have := htable.stacked.before hj (List.getElem?_eq_getElem (hj.trans hlt)) hi
  simp only [decide_eq_true_eq]
  omega

lemma PackedPartition.WellFormed.sizes (h : partition.WellFormed) :
    partition.outputFeatures = 256 * partition.nTiles ∧
      partition.inputFeatures = 64 * partition.kTiles := by
  have houtput := h.output
  have hinput := h.input
  have hn := h.nTiles
  have hk := h.kTiles
  simp only [projectionBlockN, projectionBlockK] at houtput hinput hn hk
  omega

lemma PackedPartition.WellFormed.cell_pos (h : partition.WellFormed) : 0 < partition.cellBytes := by
  have := h.format
  have := h.cellBytes
  omega

lemma PackedPartition.WellFormed.cell_lt (h : partition.WellFormed) {nTile kTile : ℕ}
    (hn : nTile < partition.nTiles) (hk : kTile < partition.kTiles) {b : ℕ}
    (hb : b < partition.cellBytes) :
    (nTile * partition.kTiles + kTile) * partition.cellBytes + b < partition.payloadBytes := by
  rw [h.payloadBytes]
  exact Radix.digits_lt (Radix.digits_lt hn hk) hb

lemma packedCell_eq (htable : PackedTable layout) (hadmits : admits layout = true)
    (hi : layout.partitions[i]? = some partition) {nTile kTile : ℕ}
    (hn : nTile < partition.nTiles) (hk : kTile < partition.kTiles) :
    packedCell admits layout i nTile kTile = some
      { partitionIndex := i
        nTile := nTile
        kTile := kTile
        payloadOffset := partition.payloadOffset +
          (nTile * partition.kTiles + kTile) * partition.cellBytes
        weightOffset := partition.payloadOffset +
          (nTile * partition.kTiles + kTile) * partition.cellBytes
        weightBytes := partition.weightBytesPerCell
        blockScaleOffset := partition.payloadOffset +
          (nTile * partition.kTiles + kTile) * partition.cellBytes + partition.weightBytesPerCell
        blockScaleBytes := partition.blockScaleBytesPerCell
        cellBytes := partition.cellBytes } := by
  have hwell := htable.partitions partition (List.mem_of_getElem? hi)
  have hbound := (htable.stacked.bounds hi).2
  have hfits := htable.fits
  have hcell := hwell.cellBytes
  have hpositive := hwell.cell_pos
  have hlast := hwell.cell_lt hn hk (Nat.sub_lt hpositive Nat.one_pos)
  have hmul : packedMulFits (nTile * partition.kTiles + kTile) partition.cellBytes := by
    right
    rw [Nat.le_div_iff_mul_le hpositive]
    omega
  unfold packedCell
  simp only [hadmits, hi, hn, hk, hmul, guard, Option.bind_eq_bind, and_self, ↓reduceIte,
    Option.pure_def, Option.bind_some]
  rw [if_pos, if_pos]
  · rfl
  · unfold packedAddFits
    omega
  · unfold packedAddFits
    omega

lemma packedFragment_eq (htable : PackedTable layout) (hadmits : admits layout = true)
    (hi : layout.partitions[i]? = some partition) {nTile kTile k16 nWarp n8Panel : ℕ}
    (hn : nTile < partition.nTiles) (hk : kTile < partition.kTiles) (hk16 : k16 < 4)
    (hwarp : nWarp < 4) (hpanel : n8Panel < 8) :
    packedFragment admits layout i nTile kTile k16 nWarp n8Panel = some
      { partitionIndex := i
        nTile := nTile
        kTile := kTile
        k16 := k16
        nWarp := nWarp
        n8Panel := n8Panel
        virtualMWarpConsumer0 := 0
        virtualMWarpConsumer1 := 1
        weightOffset := partition.payloadOffset +
          (nTile * partition.kTiles + kTile) * partition.cellBytes +
          ((k16 * 4 + nWarp) * 8 + n8Panel) * (if partition.weightBits = 4 then 64 else 128)
        weightBytes := if partition.weightBits = 4 then 64 else 128
        blockScaleOffset :=
          if partition.blockScaleBytesPerCell = 0 then 0
          else partition.payloadOffset + (nTile * partition.kTiles + kTile) * partition.cellBytes +
            partition.weightBytesPerCell + ((k16 * 4 + nWarp) * 8 + n8Panel) * 8
        blockScaleBytes := if partition.blockScaleBytesPerCell = 0 then 0 else 8 } := by
  unfold packedFragment
  rw [packedCell_eq htable hadmits hi hn hk, hi]
  simp only [packedK16s, packedNWarpCount, packedN8Panels, hk16, hwarp, hpanel, guard,
    Option.bind_eq_bind, and_self, ↓reduceIte, Option.pure_def, Option.bind_some]

end Table

section Weight

def slotByte (weightBits slot : ℕ) : ℕ := if weightBits = 4 then slot / 2 else slot

def slotNibble (weightBits slot : ℕ) : ℕ := if weightBits = 4 then slot % 2 else 0

def PackedPartition.weightOffset (partition : PackedPartition) (n k : ℕ) : ℕ :=
  partition.payloadOffset + ((n / 256 * partition.kTiles + k / 64) * partition.cellBytes +
    slotByte partition.weightBits (cellSlot (n % 256) (k % 64)))

def PackedPartition.weightNibble (partition : PackedPartition) (n k : ℕ) : ℕ :=
  slotNibble partition.weightBits (cellSlot (n % 256) (k % 64))

variable {admits : PackedLayout → Bool} {layout : PackedLayout} {partition : PackedPartition}
  {i n k : ℕ}

lemma packedWeightAddress_ok (htable : PackedTable layout) (hadmits : admits layout = true)
    (hi : layout.partitions[i]? = some partition) (hn : n < partition.outputFeatures)
    (hk : k < partition.inputFeatures) :
    ∃ address, packedWeightAddress admits layout i n k = some address ∧
      address.byteOffset = partition.weightOffset n k ∧
      address.nibble = partition.weightNibble n k := by
  have hwell := htable.partitions partition (List.mem_of_getElem? hi)
  obtain ⟨houtput, hinput⟩ := hwell.sizes
  have hcomponent : packedComponentForK16 (k % 64 % 16) = 2 * (k % 64 % 2) + k % 64 % 16 / 8 := by
    unfold packedComponentForK16
    split_ifs <;> omega
  have hfragment := @packedFragment_eq admits layout partition i htable hadmits hi (n / 256)
    (k / 64) (k % 64 / 16) (n % 256 / 64) (n % 256 % 64 / 8) (by omega) (by omega) (by omega)
    (by omega) (by omega)
  unfold packedWeightAddress
  simp only [hadmits, hi, hn, hk, guard, Option.bind_eq_bind, and_self, ↓reduceIte,
    Option.pure_def, Option.bind_some, projectionBlockN, projectionBlockK, packedNPerWarp,
    packedLaneInGroupForK16, hcomponent, hfragment]
  refine ⟨_, rfl, ?_, ?_⟩
  · unfold PackedPartition.weightOffset slotByte cellSlot
    dsimp only
    generalize (n / 256 * partition.kTiles + k / 64) * partition.cellBytes = cell
    by_cases hbits : partition.weightBits = 4
    · simp only [hbits, ↓reduceIte]
      omega
    · simp only [hbits, ↓reduceIte]
      omega
  · unfold PackedPartition.weightNibble slotNibble cellSlot
    dsimp only
    by_cases hbits : partition.weightBits = 4
    · simp only [hbits, ↓reduceIte]
      omega
    · simp only [hbits, ↓reduceIte]

lemma packedWeightAddress_some {address : PackedWeightAddress}
    (h : packedWeightAddress admits layout i n k = some address) :
    (∃ partition, layout.partitions[i]? = some partition ∧ n < partition.outputFeatures ∧
      k < partition.inputFeatures) ∧
    admits layout = true ∧ address.partitionIndex = i ∧ address.n = n ∧ address.k = k := by
  unfold packedWeightAddress at h
  simp only [Option.bind_eq_bind, Option.bind_eq_some_iff, guard_some, exists_and_left,
    exists_const, Option.pure_def] at h
  obtain ⟨hadmits, partition, hi, hrange, fragment, -, h⟩ := h
  obtain rfl := Option.some.inj h
  exact ⟨⟨partition, hi, hrange⟩, hadmits, rfl, rfl, rfl⟩

lemma PackedPartition.WellFormed.slotByte_lt (h : partition.WellFormed) {slot : ℕ}
    (hslot : slot < 16384) :
    slotByte partition.weightBits slot < partition.weightBytesPerCell := by
  unfold slotByte
  obtain ⟨hbits, -, hbytes, -⟩ | ⟨hbits, -, hbytes, -⟩ := h.format
  · rw [if_pos hbits]
    omega
  · rw [if_neg (by omega)]
    omega

lemma PackedPartition.WellFormed.slotByte_lt_cell (h : partition.WellFormed) {slot : ℕ}
    (hslot : slot < 16384) : slotByte partition.weightBits slot < partition.cellBytes := by
  have hcell := h.cellBytes
  have hbyte := h.slotByte_lt hslot
  omega

lemma slot_inj {weightBits slot slot' : ℕ} (hbyte : slotByte weightBits slot =
    slotByte weightBits slot') (hnibble : slotNibble weightBits slot = slotNibble weightBits slot') :
    slot = slot' := by
  unfold slotByte at hbyte
  unfold slotNibble at hnibble
  split_ifs at hbyte hnibble <;> omega

lemma cellSlot_mod_lt (n k : ℕ) : cellSlot (n % 256) (k % 64) < 16384 :=
  cellSlot_lt (Nat.mod_lt _ (by omega)) (Nat.mod_lt _ (by omega))

lemma PackedPartition.WellFormed.weightOffset_inside (h : partition.WellFormed)
    (hn : n < partition.outputFeatures) (hk : k < partition.inputFeatures) :
    partition.payloadOffset ≤ partition.weightOffset n k ∧
      partition.weightOffset n k < partition.payloadOffset + partition.payloadBytes := by
  obtain ⟨houtput, hinput⟩ := h.sizes
  have hnTile : n / 256 < partition.nTiles := by omega
  have hkTile : k / 64 < partition.kTiles := by omega
  have hcell := h.cell_lt hnTile hkTile
    (h.slotByte_lt_cell (cellSlot_mod_lt n k))
  unfold PackedPartition.weightOffset
  omega

lemma PackedPartition.WellFormed.weight_unique (h : partition.WellFormed) {n' k' : ℕ}
    (hk : k < partition.inputFeatures) (hk' : k' < partition.inputFeatures)
    (hoffset : partition.weightOffset n k = partition.weightOffset n' k')
    (hnibble : partition.weightNibble n k = partition.weightNibble n' k') :
    n = n' ∧ k = k' := by
  obtain ⟨houtput, hinput⟩ := h.sizes
  obtain ⟨hcell, hbyte⟩ := Radix.digits_inj (h.slotByte_lt_cell (cellSlot_mod_lt n k))
    (h.slotByte_lt_cell (cellSlot_mod_lt n' k')) (Nat.add_left_cancel hoffset)
  obtain ⟨hn, hk⟩ := Radix.digits_inj (by omega) (by omega) hcell
  have hslot := slot_inj hbyte hnibble
  have hnmod := congrArg slotN hslot
  have hkmod := congrArg slotK hslot
  rw [slotN_cellSlot (by omega) (by omega), slotN_cellSlot (by omega) (by omega)] at hnmod
  rw [slotK_cellSlot (by omega) (by omega), slotK_cellSlot (by omega) (by omega)] at hkmod
  omega

-- The weight that a byte and nibble of the weight region hold.
def slotOf (weightBits byteInCell nibble : ℕ) : ℕ :=
  if weightBits = 4 then byteInCell * 2 + nibble else byteInCell

lemma PackedPartition.WellFormed.slotOf_spec (h : partition.WellFormed) {byteInCell nibble : ℕ}
    (hbyte : byteInCell < partition.weightBytesPerCell)
    (hnibble : nibble < 8 / partition.weightBits) :
    slotOf partition.weightBits byteInCell nibble < 16384 ∧
      slotByte partition.weightBits (slotOf partition.weightBits byteInCell nibble) = byteInCell ∧
      slotNibble partition.weightBits (slotOf partition.weightBits byteInCell nibble) = nibble := by
  unfold slotOf slotByte slotNibble
  obtain ⟨hbits, -, hbytes, -⟩ | ⟨hbits, -, hbytes, -⟩ := h.format
  · rw [hbits] at hnibble
    simp only [hbits, ↓reduceIte]
    omega
  · rw [hbits] at hnibble
    rw [if_neg (by omega), if_neg (by omega), if_neg (by omega)]
    omega

lemma PackedPartition.WellFormed.cell_coordinates (h : partition.WellFormed) {relative : ℕ}
    (hrelative : relative < partition.payloadBytes) :
    0 < partition.cellBytes ∧ 0 < partition.kTiles ∧
      relative / partition.cellBytes / partition.kTiles < partition.nTiles := by
  have hpositive := h.cell_pos
  have hcells : relative / partition.cellBytes < partition.nTiles * partition.kTiles := by
    rw [Nat.div_lt_iff_lt_mul hpositive, ← h.payloadBytes]
    exact hrelative
  have hkTiles : 0 < partition.kTiles := by
    rcases Nat.eq_zero_or_pos partition.kTiles with hzero | hpos
    · rw [hzero, Nat.mul_zero] at hcells
      exact absurd hcells (Nat.not_lt_zero _)
    · exact hpos
  exact ⟨hpositive, hkTiles, by rwa [Nat.div_lt_iff_lt_mul hkTiles]⟩

lemma PackedPartition.WellFormed.weight_cover (h : partition.WellFormed) {relative nibble : ℕ}
    (hrelative : relative < partition.payloadBytes)
    (hweight : relative % partition.cellBytes < partition.weightBytesPerCell)
    (hnibble : nibble < 8 / partition.weightBits) :
    ∃ n k, n < partition.outputFeatures ∧ k < partition.inputFeatures ∧
      partition.weightOffset n k = partition.payloadOffset + relative ∧
      partition.weightNibble n k = nibble ∧
      n = relative / partition.cellBytes / partition.kTiles * 256 +
        slotN (slotOf partition.weightBits (relative % partition.cellBytes) nibble) ∧
      k = relative / partition.cellBytes % partition.kTiles * 64 +
        slotK (slotOf partition.weightBits (relative % partition.cellBytes) nibble) := by
  obtain ⟨houtput, hinput⟩ := h.sizes
  obtain ⟨hslot, hbyte, hnib⟩ := h.slotOf_spec hweight hnibble
  generalize slotOf partition.weightBits (relative % partition.cellBytes) nibble = slot at *
  obtain ⟨-, hkTiles, hnTile⟩ := h.cell_coordinates hrelative
  have hkTile := Nat.mod_lt (relative / partition.cellBytes) hkTiles
  have hnIn := slotN_lt slot
  have hkIn := slotK_lt hslot
  refine ⟨_, _, by omega, by omega, ?_, ?_, rfl, rfl⟩
  · unfold PackedPartition.weightOffset
    rw [Radix.div_digits hnIn, Radix.mod_digits hnIn, Radix.div_digits hkIn, Radix.mod_digits hkIn,
      cellSlot_slot hslot, hbyte, Radix.digits_eq, Radix.digits_eq]
  · unfold PackedPartition.weightNibble
    rw [Radix.mod_digits hnIn, Radix.mod_digits hkIn, cellSlot_slot hslot, hnib]

lemma packedK16_digits {l b t : ℕ} (hb : b < 2) (ht : t < 2) :
    packedK16ForLaneComponent l (b * 2 + t) = 8 * t + 2 * l + b := by
  unfold packedK16ForLaneComponent
  split_ifs <;> omega

lemma reverse_four {slot : ℕ} (h : slot < 16384) :
    slot / 2 / 64 / 8 % 4 * 64 + slot / 2 / 64 % 8 * 8 + slot / 2 % 64 / 2 / 4 = slotN slot ∧
      slot / 2 / 64 / 8 / 4 * 16 +
        packedK16ForLaneComponent (slot / 2 % 64 / 2 % 4) (slot / 2 % 64 % 2 * 2 + slot % 2) =
        slotK slot := by
  obtain ⟨w, p, r, q, t, l, b, hw, hp, hr, hq, ht, hl, hb, rfl⟩ := slotDigits h
  rw [slotN_digits hw hp hr ht hl hb, slotK_digits hw hp hr ht hl hb,
    packedK16_digits (by omega) (by omega)]
  omega

lemma reverse_eight {slot : ℕ} (h : slot < 16384) :
    slot / 128 / 8 % 4 * 64 + slot / 128 % 8 * 8 + slot % 128 / 4 / 4 = slotN slot ∧
      slot / 128 / 8 / 4 * 16 +
        packedK16ForLaneComponent (slot % 128 / 4 % 4) (slot % 128 % 4) = slotK slot := by
  obtain ⟨w, p, r, q, t, l, b, hw, hp, hr, hq, ht, hl, hb, rfl⟩ := slotDigits h
  have hcomponent : (4096 * q + 1024 * w + 128 * p + 16 * r + 4 * l + 2 * b + t) % 128 % 4 =
      b * 2 + t := by omega
  rw [slotN_digits hw hp hr ht hl hb, slotK_digits hw hp hr ht hl hb, hcomponent,
    packedK16_digits hb ht]
  omega

def reverseLane (weightBits byteInFragment : ℕ) : ℕ :=
  if weightBits = 4 then byteInFragment / 2 else byteInFragment / 4

def reverseComponent (weightBits byteInFragment nibble : ℕ) : ℕ :=
  if weightBits = 4 then byteInFragment % 2 * 2 + nibble else byteInFragment % 4

-- Reading the digits of a slot back from its byte and nibble, for either format.
lemma PackedPartition.WellFormed.reverse_slot (h : partition.WellFormed) {slot byte fragmentBytes
    lane component nibble : ℕ} (hslot : slot < 16384)
    (hbyte : byte = slotByte partition.weightBits slot)
    (hnibble : nibble = slotNibble partition.weightBits slot)
    (hfragment : fragmentBytes = if partition.weightBits = 4 then 64 else 128)
    (hlane : lane = reverseLane partition.weightBits (byte % fragmentBytes))
    (hcomponent : component =
      reverseComponent partition.weightBits (byte % fragmentBytes) nibble) :
    byte / fragmentBytes / 8 % 4 * 64 + byte / fragmentBytes % 8 * 8 + lane / 4 = slotN slot ∧
      byte / fragmentBytes / 8 / 4 * 16 + packedK16ForLaneComponent (lane % 4) component =
        slotK slot ∧
      ¬ (32 ≤ lane ∨ 4 ≤ component ∨ 4 ≤ byte / fragmentBytes / 8 / 4) := by
  unfold slotByte at hbyte
  unfold slotNibble at hnibble
  unfold reverseLane at hlane
  unfold reverseComponent at hcomponent
  obtain ⟨hbits, -, -, -⟩ | ⟨hbits, -, -, -⟩ := h.format
  · simp only [hbits, ↓reduceIte] at hbyte hnibble hfragment hlane hcomponent
    subst hfragment hlane hcomponent hbyte hnibble
    obtain ⟨hn, hk⟩ := reverse_four hslot
    exact ⟨hn, hk, by omega⟩
  · simp only [hbits, Nat.reduceEqDiff, ↓reduceIte] at hbyte hnibble hfragment hlane hcomponent
    subst hfragment hlane hcomponent hbyte hnibble
    obtain ⟨hn, hk⟩ := reverse_eight hslot
    exact ⟨hn, hk, by omega⟩

lemma packedReverseWeight_of (htable : PackedTable layout) {address : PackedWeightAddress}
    (h : packedWeightAddress admits layout i n k = some address) :
    packedReverseWeight admits layout address.byteOffset address.nibble = some address := by
  obtain ⟨⟨partition, hi, hn, hk⟩, hadmits, -, -, -⟩ := packedWeightAddress_some h
  have hwell := htable.partitions partition (List.mem_of_getElem? hi)
  obtain ⟨a, ha, hoffset, hnibble⟩ := packedWeightAddress_ok htable hadmits hi hn hk
  obtain rfl := Option.some.inj (ha.symm.trans h)
  obtain ⟨houtput, hinput⟩ := hwell.sizes
  obtain ⟨hlo, hhi⟩ := hwell.weightOffset_inside hn hk
  have hslot := cellSlot_mod_lt n k
  have hbyte := hwell.slotByte_lt_cell hslot
  have hweight := hwell.slotByte_lt hslot
  have hkTile : k / 64 < partition.kTiles := by omega
  have hrelative : partition.weightOffset n k - partition.payloadOffset =
      (n / 256 * partition.kTiles + k / 64) * partition.cellBytes +
        slotByte partition.weightBits (cellSlot (n % 256) (k % 64)) := Nat.add_sub_cancel_left ..
  have hnDigits : n / 256 * 256 + slotN (cellSlot (n % 256) (k % 64)) = n := by
    rw [slotN_cellSlot (by omega) (by omega)]
    omega
  have hkDigits : k / 64 * 64 + slotK (cellSlot (n % 256) (k % 64)) = k := by
    rw [slotK_cellSlot (by omega) (by omega)]
    omega
  have hslotNibble : a.nibble = slotNibble partition.weightBits (cellSlot (n % 256) (k % 64)) :=
    hnibble
  obtain ⟨hrow, hcolumn, hin⟩ := hwell.reverse_slot hslot rfl hslotNibble rfl rfl rfl
  unfold packedReverseWeight
  rw [hoffset, partitionForOffset_eq htable hi hlo hhi]
  simp only [Option.bind_eq_bind, Option.bind_some, hi, hrelative, Radix.div_digits hbyte,
    Radix.mod_digits hbyte, Radix.div_digits hkTile, Radix.mod_digits hkTile, packedLanes,
    packedK16s, packedN8Panels, packedNWarpCount, packedNPerWarp, projectionBlockN,
    projectionBlockK]
  generalize cellSlot (n % 256) (k % 64) = slot at *
  unfold reverseLane at hrow hcolumn hin
  unfold reverseComponent at hcolumn hin
  rw [Option.bind_eq_some_iff]
  refine ⟨(), guard_some.mpr hadmits, ?_⟩
  rw [Option.bind_eq_some_iff]
  refine ⟨(), guard_some.mpr ?_, ?_⟩
  · unfold slotNibble at hslotNibble
    split_ifs at hslotNibble <;> omega
  rw [Option.bind_eq_some_iff]
  refine ⟨(), guard_some.mpr hin, ?_⟩
  rw [Nat.add_assoc (n / 256 * 256), Nat.add_assoc (n / 256 * 256), hrow, hnDigits,
    Nat.add_assoc (k / 64 * 64), hcolumn, hkDigits, h, Option.bind_some, Option.bind_eq_some_iff]
  exact ⟨(), guard_some.mpr ⟨hoffset, rfl⟩, rfl⟩

lemma packedReverseWeight_iff (htable : PackedTable layout) {offset nibble : ℕ}
    {address : PackedWeightAddress} :
    packedReverseWeight admits layout offset nibble = some address ↔
      packedWeightAddress admits layout address.partitionIndex address.n address.k =
        some address ∧ address.byteOffset = offset ∧ address.nibble = nibble := by
  constructor
  · intro h
    unfold packedReverseWeight at h
    simp only [Option.bind_eq_bind, Option.bind_eq_some_iff, guard_some, exists_and_left,
      exists_const, Option.pure_def, Option.some.injEq] at h
    obtain ⟨-, i, -, partition, -, -, -, result, haddress, ⟨hoffset, hnibble⟩, rfl⟩ := h
    obtain ⟨-, -, hi, hn, hk⟩ := packedWeightAddress_some haddress
    rw [hi, hn, hk]
    exact ⟨haddress, hoffset, hnibble⟩
  · rintro ⟨h, rfl, rfl⟩
    exact packedReverseWeight_of htable h

end Weight

end Qwen3xOrin.Packed
