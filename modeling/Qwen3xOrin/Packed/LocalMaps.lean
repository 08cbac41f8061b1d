import Qwen3xOrin.Library.LastWrite
import Qwen3xOrin.Packed.Bijection
import Qwen3xOrin.Packed.Transform

/-! The table of the first cell holds, for every position in a cell, the place that the address
functions give it in any cell. -/

namespace Qwen3xOrin.Packed

open Io Library

section Nibbles

lemma shift_parity (i : ℕ) :
    UInt8.mod (UInt8.ofNat (4 * i)) 8 = UInt8.mod (UInt8.ofNat (4 * (i % 2))) 8 := by
  apply UInt8.toNat_inj.mp
  change (UInt8.ofNat (4 * i) % 8).toNat = (UInt8.ofNat (4 * (i % 2)) % 8).toNat
  have height : (8 : UInt8).toNat = 8 := rfl
  rw [UInt8.toNat_mod, UInt8.toNat_mod, UInt8.toNat_ofNat', UInt8.toNat_ofNat', height]
  omega

-- Shifts by whole nibbles depend on the parity of the nibble index only.
lemma shiftLeft_parity (a : UInt8) (i : ℕ) :
    a <<< UInt8.ofNat (4 * i) = a <<< UInt8.ofNat (4 * (i % 2)) := by
  change UInt8.shiftLeft a _ = UInt8.shiftLeft a _
  unfold UInt8.shiftLeft
  rw [shift_parity]

lemma shiftRight_parity (a : UInt8) (i : ℕ) :
    a >>> UInt8.ofNat (4 * i) = a >>> UInt8.ofNat (4 * (i % 2)) := by
  change UInt8.shiftRight a _ = UInt8.shiftRight a _
  unfold UInt8.shiftRight
  rw [shift_parity]

lemma readNibble_parity (value : UInt8) (i : ℕ) : readNibble value i = readNibble value (i % 2) := by
  unfold readNibble
  rw [shiftRight_parity]

lemma writeNibble_parity (destination value : UInt8) (i : ℕ) :
    writeNibble destination i value = writeNibble destination (i % 2) value := by
  unfold writeNibble
  dsimp only
  rw [shiftLeft_parity 0x0f, shiftLeft_parity (value &&& 0x0f)]

lemma readNibble_writeNibble (destination value : UInt8) (i : ℕ) :
    readNibble (writeNibble destination i value) i = value &&& 0x0f := by
  rw [readNibble_parity, writeNibble_parity]
  have hi := Nat.mod_lt i Nat.two_pos
  generalize i % 2 = j at *
  apply UInt8.eq_of_toBitVec_eq
  interval_cases j
  · simp only [readNibble, writeNibble]
    ext bit hbit
    simp
    interval_cases bit <;> simp
  · simp only [readNibble, writeNibble]
    ext bit hbit
    simp
    interval_cases bit <;> simp

lemma readNibble_writeNibble_other (destination value : UInt8) {i j : ℕ} (h : i % 2 ≠ j % 2) :
    readNibble (writeNibble destination i value) j = readNibble destination j := by
  rw [readNibble_parity _ j, readNibble_parity _ j, writeNibble_parity]
  have hi := Nat.mod_lt i Nat.two_pos
  have hj := Nat.mod_lt j Nat.two_pos
  generalize i % 2 = a at *
  generalize j % 2 = b at *
  apply UInt8.eq_of_toBitVec_eq
  obtain ⟨rfl, rfl⟩ | ⟨rfl, rfl⟩ : (a = 0 ∧ b = 1) ∨ (a = 1 ∧ b = 0) := by omega
  · simp only [readNibble, writeNibble]
    ext bit hbit
    simp
    interval_cases bit <;> simp
  · simp only [readNibble, writeNibble]
    ext bit hbit
    simp
    interval_cases bit <;> simp

lemma eq_of_nibbles {x y : UInt8} (h0 : readNibble x 0 = readNibble y 0)
    (h1 : readNibble x 1 = readNibble y 1) : x = y := by
  have hsplit : ∀ x : UInt8, x = readNibble x 0 ||| (readNibble x 1 <<< 4) := by
    intro x
    apply UInt8.eq_of_toBitVec_eq
    simp only [readNibble]
    ext bit hbit
    simp
    interval_cases bit <;> simp
  rw [hsplit x, hsplit y, h0, h1]

end Nibbles

section Maps

variable {layout : PackedLayout} {partition : PackedPartition} {i : ℕ}

lemma mem_grid {a b : ℕ} {p : ℕ × ℕ} :
    p ∈ List.product (List.range a) (List.range b) ↔ p.1 < a ∧ p.2 < b := by
  rw [← List.mem_range, ← List.mem_range (n := b)]
  exact List.pair_mem_product

lemma nodup_grid (a b : ℕ) : (List.product (List.range a) (List.range b)).Nodup :=
  List.Nodup.product List.nodup_range List.nodup_range

lemma valid_tiles (hvalid : layout.valid = true) (hi : layout.partitions[i]? = some partition) :
    0 < partition.nTiles ∧ 0 < partition.kTiles := by
  obtain ⟨-, -, heq⟩ := of_decide_eq_true hvalid
  have hall : ∀ role, ∀ partition ∈ (packedLayout role).partitions,
      0 < partition.nTiles ∧ 0 < partition.kTiles := by
    intro role
    cases role <;> decide
  rw [heq] at hi
  exact hall _ partition (List.mem_of_getElem? hi)

lemma valid_table (hvalid : layout.valid = true) : PackedTable layout := by
  obtain ⟨-, -, heq⟩ := of_decide_eq_true hvalid
  rw [heq]
  exact packedLayout_table _

def weightTarget (partition : PackedPartition) (position : ℕ × ℕ) : LocalWeightTarget where
  byteOffset := slotByte partition.weightBits (cellSlot position.1 position.2)
  nibble := slotNibble partition.weightBits (cellSlot position.1 position.2)

def setWeight (partition : PackedPartition) (maps : LocalMaps) (position : ℕ × ℕ) : LocalMaps :=
  { maps with
    weights := Function.update maps.weights (position.1 * 64 + position.2)
      (weightTarget partition position) }

def setScale (maps : LocalMaps) (position : ℕ × ℕ) : LocalMaps :=
  { maps with
    scales := Function.update maps.scales (position.1 * 4 + position.2)
      (scaleSlot position.1 position.2) }

lemma slot_of_target (partition : PackedPartition) (slot : ℕ) :
    (if partition.weightBits = 4 then
      slotByte partition.weightBits slot * 2 + slotNibble partition.weightBits slot
    else slotByte partition.weightBits slot) = slot := by
  unfold slotByte slotNibble
  split_ifs with hbits
  · omega
  · rfl

lemma mapWeight_step (hvalid : layout.valid = true) (hi : layout.partitions[i]? = some partition)
    {cell : PackedCell} (hcell : packedCell PackedLayout.valid layout i 0 0 = some cell)
    {position : ℕ × ℕ} (hposition : position.1 < 256 ∧ position.2 < 64) (maps : LocalMaps)
    {visited : ℕ → Bool} (hfresh : visited (cellSlot position.1 position.2) = false) :
    mapWeight layout i partition cell (maps, visited) position =
      some (setWeight partition maps position,
        Function.update visited (cellSlot position.1 position.2) true) := by
  have htable := valid_table hvalid
  have hwell := htable.partitions partition (List.mem_of_getElem? hi)
  obtain ⟨hnTiles, hkTiles⟩ := valid_tiles hvalid hi
  obtain ⟨houtput, hinput⟩ := hwell.sizes
  obtain ⟨n, k⟩ := position
  obtain ⟨hn, hk⟩ := hposition
  dsimp only at hn hk hfresh
  rw [packedCell_eq htable hvalid hi hnTiles hkTiles] at hcell
  obtain rfl := Option.some.inj hcell
  have hslot := cellSlot_lt hn hk
  have hbyte := hwell.slotByte_lt hslot
  obtain ⟨a, ha, hoffset, hnibble⟩ := @packedWeightAddress_ok PackedLayout.valid layout partition i n
    k htable hvalid hi (by omega) (by omega)
  have hoffset' : a.byteOffset = partition.payloadOffset +
      slotByte partition.weightBits (cellSlot n k) := by
    rw [hoffset, PackedPartition.weightOffset, Nat.div_eq_of_lt hn, Nat.div_eq_of_lt hk,
      Nat.mod_eq_of_lt hn, Nat.mod_eq_of_lt hk]
    simp
  have hnibble' : a.nibble = slotNibble partition.weightBits (cellSlot n k) := by
    rw [hnibble, PackedPartition.weightNibble, Nat.mod_eq_of_lt hn, Nat.mod_eq_of_lt hk]
  unfold mapWeight
  simp only [ha, Option.bind_eq_bind, Option.bind_some, hoffset', hnibble', zero_mul, add_zero,
    Nat.add_sub_cancel_left, slot_of_target, Option.bind_eq_some_iff]
  refine ⟨(), guard_some.mpr (by omega), (), guard_some.mpr ⟨hbyte, ?_, hfresh⟩, rfl⟩
  exact hslot

lemma mapScale_step (hvalid : layout.valid = true) (hi : layout.partitions[i]? = some partition)
    (hgroup : partition.blockScaleGroupK = 16) {cell : PackedCell}
    (hcell : packedCell PackedLayout.valid layout i 0 0 = some cell) {position : ℕ × ℕ}
    (hposition : position.1 < 256 ∧ position.2 < 4) (maps : LocalMaps) {visited : ℕ → Bool}
    (hfresh : visited (scaleSlot position.1 position.2) = false) :
    mapScale layout i cell (maps, visited) position =
      some (setScale maps position,
        Function.update visited (scaleSlot position.1 position.2) true) := by
  have htable := valid_table hvalid
  have hwell := htable.partitions partition (List.mem_of_getElem? hi)
  obtain ⟨hnTiles, hkTiles⟩ := valid_tiles hvalid hi
  obtain ⟨houtput, hinput⟩ := hwell.sizes
  obtain ⟨-, hscales, -⟩ := hwell.scaled hgroup
  obtain ⟨n, g⟩ := position
  obtain ⟨hn, hg⟩ := hposition
  dsimp only at hn hg hfresh
  rw [packedCell_eq htable hvalid hi hnTiles hkTiles] at hcell
  obtain rfl := Option.some.inj hcell
  have hslot := scaleSlot_lt hn hg
  obtain ⟨a, ha, hoffset⟩ := @packedScaleAddress_ok PackedLayout.valid layout partition i n g htable
    hvalid hi hgroup (by omega) (by omega)
  have hoffset' : a.byteOffset = partition.payloadOffset + partition.weightBytesPerCell +
      scaleSlot n g := by
    rw [hoffset, PackedPartition.scaleOffset, Nat.div_eq_of_lt hn, Nat.div_eq_of_lt hg,
      Nat.mod_eq_of_lt hn, Nat.mod_eq_of_lt hg]
    simp [Nat.add_assoc]
  unfold mapScale
  simp only [ha, Option.bind_eq_bind, Option.bind_some, hoffset', zero_mul, add_zero,
    Nat.add_sub_cancel_left, Option.bind_eq_some_iff]
  refine ⟨(), guard_some.mpr (by omega), (), guard_some.mpr ⟨by omega, ?_, hfresh⟩, rfl⟩
  exact hslot

lemma key_inj {a b : ℕ × ℕ} {width : ℕ} (ha : a.2 < width) (hb : b.2 < width)
    (h : a.1 * width + a.2 = b.1 * width + b.2) : a = b := by
  obtain ⟨h₁, h₂⟩ := Radix.digits_inj ha hb h
  exact Prod.ext h₁ h₂

lemma setWeight_law (partition : PackedPartition) :
    WriteLaw (setWeight partition) LocalMaps.weights (fun position key =>
      position.1 * 64 + position.2 = key) (fun position _ => weightTarget partition position) where
  hit := by
    rintro maps position key rfl
    exact Function.update_self ..
  miss h := Function.update_of_ne (fun heq => h heq.symm) ..

lemma setScale_law :
    WriteLaw setScale LocalMaps.scales (fun position key => position.1 * 4 + position.2 = key)
      (fun position _ => scaleSlot position.1 position.2) where
  hit := by
    rintro maps position key rfl
    exact Function.update_self ..
  miss h := Function.update_of_ne (fun heq => h heq.symm) ..

lemma setScales_weights (positions : List (ℕ × ℕ)) (maps : LocalMaps) :
    (positions.foldl setScale maps).weights = maps.weights := by
  induction positions generalizing maps with
  | nil => rfl
  | cons position positions ih => exact ih _

lemma cellSlot_inj {a b : ℕ × ℕ} (ha : a.1 < 256 ∧ a.2 < 64) (hb : b.1 < 256 ∧ b.2 < 64)
    (h : cellSlot a.1 a.2 = cellSlot b.1 b.2) : a = b := by
  have hn := congrArg slotN h
  have hk := congrArg slotK h
  rw [slotN_cellSlot ha.1 ha.2, slotN_cellSlot hb.1 hb.2] at hn
  rw [slotK_cellSlot ha.1 ha.2, slotK_cellSlot hb.1 hb.2] at hk
  exact Prod.ext hn hk

lemma scaleSlot_inj {a b : ℕ × ℕ} (ha : a.1 < 256) (hb : b.1 < 256)
    (h : scaleSlot a.1 a.2 = scaleSlot b.1 b.2) : a = b := by
  have hn := congrArg scaleSlotN h
  have hk := congrArg (· / 256) h
  rw [scaleSlotN_scaleSlot ha, scaleSlotN_scaleSlot hb] at hn
  rw [scaleSlot_div ha, scaleSlot_div hb] at hk
  exact Prod.ext hn hk

structure MapsExact (partition : PackedPartition) (maps : LocalMaps) : Prop where
  weights : ∀ n < 256, ∀ k < 64, maps.weights (n * 64 + k) = weightTarget partition (n, k)
  scales : partition.blockScaleGroupK = 16 → ∀ n < 256, ∀ g < 4,
    maps.scales (n * 4 + g) = scaleSlot n g

lemma mapWeights_ok (hvalid : layout.valid = true) (hi : layout.partitions[i]? = some partition)
    {cell : PackedCell} (hcell : packedCell PackedLayout.valid layout i 0 0 = some cell) :
    ∃ maps, mapWeights layout i partition cell = some maps ∧
      ∀ n < 256, ∀ k < 64, maps.weights (n * 64 + k) = weightTarget partition (n, k) := by
  have hunique : ((List.product (List.range projectionBlockN) (List.range projectionBlockK)).map
      fun position => cellSlot position.1 position.2).Nodup := by
    refine (nodup_grid _ _).map_on ?_
    intro a ha b hb h
    exact cellSlot_inj (mem_grid.1 ha) (mem_grid.1 hb) h
  obtain ⟨visited, hfold, hvisited⟩ := @foldlM_mark LocalMaps (ℕ × ℕ) _
    (fun position => cellSlot position.1 position.2) (setWeight partition) _ {} (fun _ => false)
    (fun position hposition maps visited hfresh =>
      mapWeight_step hvalid hi hcell (mem_grid.1 hposition) maps hfresh)
    hunique fun _ _ => rfl
  have hall : ∀ slot < cellWeightValues, visited slot = true := by
    intro slot hslot
    rw [hvisited]
    refine Or.inr ⟨(slotN slot, slotK slot), mem_grid.2 ⟨slotN_lt slot, slotK_lt hslot⟩, ?_⟩
    exact cellSlot_slot hslot
  refine ⟨_, Option.bind_eq_some_iff.mpr ⟨_, hfold, Option.bind_eq_some_iff.mpr
    ⟨(), guard_some.mpr hall, rfl⟩⟩, ?_⟩
  · intro n hn k hk
    apply (setWeight_law partition).agreed
    · exact ⟨(n, k), mem_grid.2 ⟨hn, hk⟩, rfl⟩
    · intro position hposition hkey
      rw [key_inj (b := (n, k)) (mem_grid.1 hposition).2 hk hkey]

lemma mapScales_ok (hvalid : layout.valid = true) (hi : layout.partitions[i]? = some partition)
    (hgroup : partition.blockScaleGroupK = 16) {cell : PackedCell}
    (hcell : packedCell PackedLayout.valid layout i 0 0 = some cell) (maps : LocalMaps) :
    ∃ maps', mapScales layout i cell maps = some maps' ∧ maps'.weights = maps.weights ∧
      ∀ n < 256, ∀ g < 4, maps'.scales (n * 4 + g) = scaleSlot n g := by
  have hunique : ((List.product (List.range projectionBlockN) (List.range (projectionBlockK / 16))).map
      fun position => scaleSlot position.1 position.2).Nodup := by
    refine (nodup_grid _ _).map_on ?_
    intro a ha b hb h
    exact scaleSlot_inj (mem_grid.1 ha).1 (mem_grid.1 hb).1 h
  obtain ⟨visited, hfold, hvisited⟩ := @foldlM_mark LocalMaps (ℕ × ℕ) _
    (fun position => scaleSlot position.1 position.2) setScale _ maps (fun _ => false)
    (fun position hposition maps visited hfresh =>
      mapScale_step hvalid hi hgroup hcell (mem_grid.1 hposition) maps hfresh)
    hunique fun _ _ => rfl
  have hall : ∀ slot < cellScaleValues, visited slot = true := by
    intro slot hslot
    rw [hvisited]
    refine Or.inr ⟨(scaleSlotN slot, slot / 256),
      mem_grid.2 ⟨scaleSlotN_lt slot, ?_⟩, scaleSlot_slot slot⟩
    simp only [cellScaleValues, projectionBlockN, projectionBlockK] at hslot
    dsimp only
    omega
  refine ⟨_, Option.bind_eq_some_iff.mpr ⟨_, hfold, Option.bind_eq_some_iff.mpr
    ⟨(), guard_some.mpr hall, rfl⟩⟩, setScales_weights _ maps, ?_⟩
  · intro n hn g hg
    apply setScale_law.agreed
    · exact ⟨(n, g), mem_grid.2 ⟨hn, hg⟩, rfl⟩
    · intro position hposition hkey
      rw [key_inj (b := (n, g)) (mem_grid.1 hposition).2 hg hkey]

lemma buildLocalMaps_ok (hvalid : layout.valid = true)
    (hi : layout.partitions[i]? = some partition) :
    ∃ maps, buildLocalMaps layout i = some maps ∧ MapsExact partition maps := by
  have htable := valid_table hvalid
  have hwell := htable.partitions partition (List.mem_of_getElem? hi)
  obtain ⟨hnTiles, hkTiles⟩ := valid_tiles hvalid hi
  obtain ⟨cell, hcell, hscaleBytes⟩ : ∃ cell,
      packedCell PackedLayout.valid layout i 0 0 = some cell ∧
      cell.blockScaleBytes = partition.blockScaleBytesPerCell :=
    ⟨_, packedCell_eq htable hvalid hi hnTiles hkTiles, rfl⟩
  obtain ⟨maps, hweights, hmaps⟩ := mapWeights_ok hvalid hi hcell
  unfold buildLocalMaps
  rw [hi, hcell]
  simp only [Option.bind_eq_bind, Option.bind_some, hweights]
  by_cases hgroup : partition.blockScaleGroupK = 0
  · have hnone : cell.blockScaleBytes = 0 := by
      have := hwell.format
      omega
    refine ⟨maps, ?_, hmaps, fun h => by omega⟩
    rw [if_pos hgroup, Option.bind_eq_some_iff]
    exact ⟨(), guard_some.mpr hnone, rfl⟩
  · have hgroup' : partition.blockScaleGroupK = 16 := by
      have := hwell.format
      omega
    obtain ⟨maps', hscales, hkept, hmaps'⟩ := mapScales_ok hvalid hi hgroup' hcell maps
    refine ⟨maps', ?_, fun n hn k hk => hkept ▸ hmaps n hn k hk, fun _ => hmaps'⟩
    rw [if_neg hgroup, hscales]

end Maps

end Qwen3xOrin.Packed
