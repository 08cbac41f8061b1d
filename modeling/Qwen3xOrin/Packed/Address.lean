import Qwen3xOrin.Packed.Layout

/-! Packed addresses: the byte and nibble of a weight, the byte of a block scale, and the way back
from a payload offset. `admits` is the layout check that every address function makes first. -/

namespace Qwen3xOrin.Packed

open Io

def packedMulFits (left right : ℕ) : Prop := right = 0 ∨ left ≤ uint64Max / right

def packedAddFits (left right : ℕ) : Prop := left ≤ uint64Max - right

instance (left right : ℕ) : Decidable (packedMulFits left right) :=
  inferInstanceAs (Decidable (_ ∨ _))

instance (left right : ℕ) : Decidable (packedAddFits left right) :=
  inferInstanceAs (Decidable (_ ≤ _))

structure PackedCell where
  partitionIndex : ℕ
  nTile : ℕ
  kTile : ℕ
  payloadOffset : ℕ
  weightOffset : ℕ
  weightBytes : ℕ
  blockScaleOffset : ℕ
  blockScaleBytes : ℕ
  cellBytes : ℕ
  deriving DecidableEq, Repr

structure PackedFragment where
  partitionIndex : ℕ
  nTile : ℕ
  kTile : ℕ
  k16 : ℕ
  nWarp : ℕ
  n8Panel : ℕ
  virtualMWarpConsumer0 : ℕ
  virtualMWarpConsumer1 : ℕ
  weightOffset : ℕ
  weightBytes : ℕ
  blockScaleOffset : ℕ
  blockScaleBytes : ℕ
  deriving DecidableEq, Repr

structure PackedWeightAddress where
  partitionIndex : ℕ
  n : ℕ
  k : ℕ
  byteOffset : ℕ
  nibble : ℕ
  s2rLane : ℕ
  s2rComponent : ℕ
  nWarp : ℕ
  virtualMWarpConsumer0 : ℕ
  virtualMWarpConsumer1 : ℕ
  deriving DecidableEq, Repr

structure PackedScaleAddress where
  partitionIndex : ℕ
  n : ℕ
  scaleGroup : ℕ
  byteOffset : ℕ
  nWarp : ℕ
  virtualMWarpConsumer0 : ℕ
  virtualMWarpConsumer1 : ℕ
  deriving DecidableEq, Repr

def packedComponentForK16 (kIn16 : ℕ) : ℕ :=
  if kIn16 < 8 then if kIn16 % 2 = 0 then 0 else 2
  else if kIn16 % 2 = 0 then 1 else 3

def packedLaneInGroupForK16 (kIn16 : ℕ) : ℕ := kIn16 % 8 / 2

def packedK16ForLaneComponent (laneInGroup component : ℕ) : ℕ :=
  2 * laneInGroup + (if 2 ≤ component then 1 else 0) + (if component % 2 ≠ 0 then 8 else 0)

section Address

variable (admits : PackedLayout → Bool) (layout : PackedLayout)

def packedCell (partitionIndex nTile kTile : ℕ) : Option PackedCell := do
  guard (admits layout = true)
  let partition ← layout.partitions[partitionIndex]?
  guard (nTile < partition.nTiles ∧ kTile < partition.kTiles)
  let linearCell := nTile * partition.kTiles + kTile
  guard (packedMulFits linearCell partition.cellBytes)
  let relative := linearCell * partition.cellBytes
  guard (packedAddFits partition.payloadOffset relative)
  let cellOffset := partition.payloadOffset + relative
  guard (packedAddFits cellOffset partition.weightBytesPerCell)
  pure
    { partitionIndex := partitionIndex
      nTile := nTile
      kTile := kTile
      payloadOffset := cellOffset
      weightOffset := cellOffset
      weightBytes := partition.weightBytesPerCell
      blockScaleOffset := cellOffset + partition.weightBytesPerCell
      blockScaleBytes := partition.blockScaleBytesPerCell
      cellBytes := partition.cellBytes }

def packedFragment (partitionIndex nTile kTile k16 nWarp n8Panel : ℕ) : Option PackedFragment := do
  let cell ← packedCell admits layout partitionIndex nTile kTile
  guard (k16 < packedK16s ∧ nWarp < packedNWarpCount ∧ n8Panel < packedN8Panels)
  let partition ← layout.partitions[partitionIndex]?
  let weightFragmentBytes := if partition.weightBits = 4 then 64 else 128
  let fragment := (k16 * packedNWarpCount + nWarp) * packedN8Panels + n8Panel
  pure
    { partitionIndex := partitionIndex
      nTile := nTile
      kTile := kTile
      k16 := k16
      nWarp := nWarp
      n8Panel := n8Panel
      virtualMWarpConsumer0 := 0
      virtualMWarpConsumer1 := 1
      weightOffset := cell.weightOffset + fragment * weightFragmentBytes
      weightBytes := weightFragmentBytes
      blockScaleOffset :=
        if partition.blockScaleBytesPerCell = 0 then 0 else cell.blockScaleOffset + fragment * 8
      blockScaleBytes := if partition.blockScaleBytesPerCell = 0 then 0 else 8 }

def packedWeightAddress (partitionIndex n k : ℕ) : Option PackedWeightAddress := do
  guard (admits layout = true)
  let partition ← layout.partitions[partitionIndex]?
  guard (n < partition.outputFeatures ∧ k < partition.inputFeatures)
  let nInTile := n % projectionBlockN
  let kInTile := k % projectionBlockK
  let nWarp := nInTile / packedNPerWarp
  let nInWarp := nInTile % packedNPerWarp
  let n8Panel := nInWarp / 8
  let row := nInWarp % 8
  let k16 := kInTile / 16
  let kIn16 := kInTile % 16
  let laneInGroup := packedLaneInGroupForK16 kIn16
  let component := packedComponentForK16 kIn16
  let lane := row * 4 + laneInGroup
  let fragment ← packedFragment admits layout partitionIndex (n / projectionBlockN)
    (k / projectionBlockK) k16 nWarp n8Panel
  pure
    { partitionIndex := partitionIndex
      n := n
      k := k
      byteOffset :=
        if partition.weightBits = 4 then fragment.weightOffset + (lane * 2 + component / 2)
        else fragment.weightOffset + (lane * 4 + component)
      nibble := if partition.weightBits = 4 then component % 2 else 0
      s2rLane := lane
      s2rComponent := component
      nWarp := nWarp
      virtualMWarpConsumer0 := fragment.virtualMWarpConsumer0
      virtualMWarpConsumer1 := fragment.virtualMWarpConsumer1 }

def packedScaleAddress (partitionIndex n scaleGroup : ℕ) : Option PackedScaleAddress := do
  guard (admits layout = true)
  let partition ← layout.partitions[partitionIndex]?
  guard (partition.blockScaleGroupK = 16 ∧ n < partition.outputFeatures ∧
    scaleGroup < partition.inputFeatures / 16)
  let nInTile := n % projectionBlockN
  let nWarp := nInTile / packedNPerWarp
  let nInWarp := nInTile % packedNPerWarp
  let n8Panel := nInWarp / 8
  let row := nInWarp % 8
  let kTile := scaleGroup / 4
  let k16 := scaleGroup % 4
  let fragment ← packedFragment admits layout partitionIndex (n / projectionBlockN) kTile k16 nWarp
    n8Panel
  guard (fragment.blockScaleBytes = 8)
  pure
    { partitionIndex := partitionIndex
      n := n
      scaleGroup := scaleGroup
      byteOffset := fragment.blockScaleOffset + row
      nWarp := nWarp
      virtualMWarpConsumer0 := fragment.virtualMWarpConsumer0
      virtualMWarpConsumer1 := fragment.virtualMWarpConsumer1 }

-- The first partition whose payload range holds the offset.
def packedPartitionForOffset (byteOffset : ℕ) : Option ℕ :=
  layout.partitions.findIdx? fun partition =>
    decide (partition.payloadOffset ≤ byteOffset ∧
      byteOffset - partition.payloadOffset < partition.payloadBytes)

def packedReverseWeight (byteOffset nibble : ℕ) : Option PackedWeightAddress := do
  guard (admits layout = true)
  let partitionIndex ← packedPartitionForOffset layout byteOffset
  let partition ← layout.partitions[partitionIndex]?
  let relative := byteOffset - partition.payloadOffset
  let cellIndex := relative / partition.cellBytes
  let byteInCell := relative % partition.cellBytes
  guard (¬ (partition.weightBytesPerCell ≤ byteInCell ∨
    (partition.weightBits = 8 ∧ nibble ≠ 0) ∨ 1 < nibble))
  let nTile := cellIndex / partition.kTiles
  let kTile := cellIndex % partition.kTiles
  let fragmentBytes := if partition.weightBits = 4 then 64 else 128
  let fragmentIndex := byteInCell / fragmentBytes
  let byteInFragment := byteInCell % fragmentBytes
  let n8Panel := fragmentIndex % packedN8Panels
  let fragmentOuter := fragmentIndex / packedN8Panels
  let nWarp := fragmentOuter % packedNWarpCount
  let k16 := fragmentOuter / packedNWarpCount
  let lane := if partition.weightBits = 4 then byteInFragment / 2 else byteInFragment / 4
  let component :=
    if partition.weightBits = 4 then byteInFragment % 2 * 2 + nibble else byteInFragment % 4
  guard (¬ (packedLanes ≤ lane ∨ 4 ≤ component ∨ packedK16s ≤ k16))
  let row := lane / 4
  let laneInGroup := lane % 4
  let kIn16 := packedK16ForLaneComponent laneInGroup component
  let n := nTile * projectionBlockN + nWarp * packedNPerWarp + n8Panel * 8 + row
  let k := kTile * projectionBlockK + k16 * 16 + kIn16
  let result ← packedWeightAddress admits layout partitionIndex n k
  guard (result.byteOffset = byteOffset ∧ result.nibble = nibble)
  pure result

def packedReverseScale (byteOffset : ℕ) : Option PackedScaleAddress := do
  guard (admits layout = true)
  let partitionIndex ← packedPartitionForOffset layout byteOffset
  let partition ← layout.partitions[partitionIndex]?
  guard (partition.blockScaleGroupK = 16)
  let relative := byteOffset - partition.payloadOffset
  let cellIndex := relative / partition.cellBytes
  let byteInCell := relative % partition.cellBytes
  guard (¬ (byteInCell < partition.weightBytesPerCell ∨ partition.cellBytes ≤ byteInCell))
  let scaleIndex := byteInCell - partition.weightBytesPerCell
  let row := scaleIndex % 8
  let scaleFragment := scaleIndex / 8
  let n8Panel := scaleFragment % packedN8Panels
  let fragmentOuter := scaleFragment / packedN8Panels
  let nWarp := fragmentOuter % packedNWarpCount
  let k16 := fragmentOuter / packedNWarpCount
  guard (k16 < packedK16s)
  let nTile := cellIndex / partition.kTiles
  let kTile := cellIndex % partition.kTiles
  let n := nTile * projectionBlockN + nWarp * packedNPerWarp + n8Panel * 8 + row
  let scaleGroup := kTile * 4 + k16
  let result ← packedScaleAddress admits layout partitionIndex n scaleGroup
  guard (result.byteOffset = byteOffset)
  pure result

end Address

-- The place of a weight in its cell, counted in weights; either format stores them in this order.
def cellSlot (nInTile kInTile : ℕ) : ℕ :=
  ((kInTile / 16 * 4 + nInTile / 64) * 8 + nInTile % 64 / 8) * 128 +
    ((nInTile % 8) * 4 + kInTile % 8 / 2) * 4 + (2 * (kInTile % 2) + kInTile % 16 / 8)

def slotN (slot : ℕ) : ℕ := slot / 1024 % 4 * 64 + slot / 128 % 8 * 8 + slot / 16 % 8

def slotK (slot : ℕ) : ℕ :=
  slot / 4096 * 16 + 2 * (slot / 4 % 4) + slot % 4 / 2 + 8 * (slot % 2)

def scaleSlot (nInTile k16 : ℕ) : ℕ :=
  ((k16 * 4 + nInTile / 64) * 8 + nInTile % 64 / 8) * 8 + nInTile % 8

def scaleSlotN (slot : ℕ) : ℕ := slot / 64 % 4 * 64 + slot / 8 % 8 * 8 + slot % 8

lemma cellSlot_lt {nInTile kInTile : ℕ} (hn : nInTile < 256) (hk : kInTile < 64) :
    cellSlot nInTile kInTile < 16384 := by
  unfold cellSlot
  omega

-- Tile coordinates digit by digit: warp, panel and row of `n`; K16, half, lane and parity of `k`.
lemma nDigits {nInTile : ℕ} (h : nInTile < 256) : ∃ w p r, w < 4 ∧ p < 8 ∧ r < 8 ∧
    nInTile = 64 * w + 8 * p + r :=
  ⟨nInTile / 64, nInTile % 64 / 8, nInTile % 8, by omega, by omega, by omega, by omega⟩

lemma kDigits {kInTile : ℕ} (h : kInTile < 64) : ∃ q t l b, q < 4 ∧ t < 2 ∧ l < 4 ∧ b < 2 ∧
    kInTile = 16 * q + 8 * t + 2 * l + b :=
  ⟨kInTile / 16, kInTile % 16 / 8, kInTile % 8 / 2, kInTile % 2, by omega, by omega, by omega,
    by omega, by omega⟩

section Digits

variable {w p r q t l b : ℕ}

lemma cellSlot_digits (hr : r < 8) (ht : t < 2) (hl : l < 4) (hb : b < 2) :
    cellSlot (64 * w + 8 * p + r) (16 * q + 8 * t + 2 * l + b) =
      4096 * q + 1024 * w + 128 * p + 16 * r + 4 * l + 2 * b + t := by
  unfold cellSlot
  omega

lemma slotN_digits (hw : w < 4) (hp : p < 8) (hr : r < 8) (ht : t < 2) (hl : l < 4)
    (hb : b < 2) :
    slotN (4096 * q + 1024 * w + 128 * p + 16 * r + 4 * l + 2 * b + t) =
      64 * w + 8 * p + r := by
  unfold slotN
  omega

lemma slotK_digits (hw : w < 4) (hp : p < 8) (hr : r < 8) (ht : t < 2) (hl : l < 4)
    (hb : b < 2) :
    slotK (4096 * q + 1024 * w + 128 * p + 16 * r + 4 * l + 2 * b + t) =
      16 * q + 8 * t + 2 * l + b := by
  unfold slotK
  omega

end Digits

lemma slotN_cellSlot {nInTile kInTile : ℕ} (hn : nInTile < 256) (hk : kInTile < 64) :
    slotN (cellSlot nInTile kInTile) = nInTile := by
  obtain ⟨w, p, r, hw, hp, hr, rfl⟩ := nDigits hn
  obtain ⟨q, t, l, b, hq, ht, hl, hb, rfl⟩ := kDigits hk
  rw [cellSlot_digits hr ht hl hb, slotN_digits hw hp hr ht hl hb]

lemma slotK_cellSlot {nInTile kInTile : ℕ} (hn : nInTile < 256) (hk : kInTile < 64) :
    slotK (cellSlot nInTile kInTile) = kInTile := by
  obtain ⟨w, p, r, hw, hp, hr, rfl⟩ := nDigits hn
  obtain ⟨q, t, l, b, hq, ht, hl, hb, rfl⟩ := kDigits hk
  rw [cellSlot_digits hr ht hl hb, slotK_digits hw hp hr ht hl hb]

lemma slotDigits {slot : ℕ} (h : slot < 16384) : ∃ w p r q t l b, w < 4 ∧ p < 8 ∧ r < 8 ∧ q < 4 ∧
    t < 2 ∧ l < 4 ∧ b < 2 ∧
    slot = 4096 * q + 1024 * w + 128 * p + 16 * r + 4 * l + 2 * b + t :=
  ⟨slot / 1024 % 4, slot / 128 % 8, slot / 16 % 8, slot / 4096, slot % 2, slot / 4 % 4,
    slot / 2 % 2, by omega, by omega, by omega, by omega, by omega, by omega, by omega, by omega⟩

lemma cellSlot_slot {slot : ℕ} (h : slot < 16384) : cellSlot (slotN slot) (slotK slot) = slot := by
  obtain ⟨w, p, r, q, t, l, b, hw, hp, hr, hq, ht, hl, hb, rfl⟩ := slotDigits h
  rw [slotN_digits hw hp hr ht hl hb, slotK_digits hw hp hr ht hl hb,
    cellSlot_digits hr ht hl hb]

lemma scaleSlot_lt {nInTile k16 : ℕ} (hn : nInTile < 256) (hk : k16 < 4) :
    scaleSlot nInTile k16 < 1024 := by
  unfold scaleSlot
  omega

lemma scaleSlotN_scaleSlot {nInTile k16 : ℕ} (hn : nInTile < 256) :
    scaleSlotN (scaleSlot nInTile k16) = nInTile := by
  obtain ⟨w, p, r, hw, hp, hr, rfl⟩ := nDigits hn
  have hslot : scaleSlot (64 * w + 8 * p + r) k16 = 256 * k16 + 64 * w + 8 * p + r := by
    unfold scaleSlot
    omega
  rw [hslot]
  unfold scaleSlotN
  omega

lemma scaleSlot_div {nInTile k16 : ℕ} (hn : nInTile < 256) :
    scaleSlot nInTile k16 / 256 = k16 := by
  unfold scaleSlot
  omega

lemma scaleSlot_slot (slot : ℕ) : scaleSlot (scaleSlotN slot) (slot / 256) = slot := by
  unfold scaleSlot scaleSlotN
  omega

lemma scaleSlotN_lt (slot : ℕ) : scaleSlotN slot < 256 := by
  unfold scaleSlotN
  omega

lemma slotN_lt (slot : ℕ) : slotN slot < 256 := by
  unfold slotN
  omega

lemma slotK_lt {slot : ℕ} (h : slot < 16384) : slotK slot < 64 := by
  unfold slotK
  omega

end Qwen3xOrin.Packed
