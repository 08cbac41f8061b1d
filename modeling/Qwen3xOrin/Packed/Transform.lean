import Qwen3xOrin.Packed.Address
import Qwen3xOrin.Packed.Sources

/-! Packing the canonical sources cell by cell through a table taken from the first cell, scanning
the packed block scales, and comparing a payload with its sources. -/

namespace Qwen3xOrin.Packed

open Io Library

def writeNibble (destination : UInt8) (nibbleIndex : ℕ) (value : UInt8) : UInt8 :=
  let shift := UInt8.ofNat (4 * nibbleIndex)
  let mask := 0x0f <<< shift
  (destination &&& ~~~mask) ||| ((value &&& 0x0f) <<< shift)

def readNibble (value : UInt8) (nibbleIndex : ℕ) : UInt8 :=
  (value >>> UInt8.ofNat (4 * nibbleIndex)) &&& 0x0f

structure LocalWeightTarget where
  byteOffset : ℕ := 0
  nibble : ℕ := 0
  deriving DecidableEq, Repr

structure LocalMaps where
  weights : ℕ → LocalWeightTarget := fun _ => {}
  scales : ℕ → ℕ := fun _ => 0

def cellWeightValues : ℕ := projectionBlockN * projectionBlockK

def cellScaleValues : ℕ := projectionBlockN * (projectionBlockK / 16)

section Maps

variable (layout : PackedLayout) (partitionIndex : ℕ) (partition : PackedPartition)
  (cell : PackedCell)

def mapWeight (state : LocalMaps × (ℕ → Bool)) (position : ℕ × ℕ) :
    Option (LocalMaps × (ℕ → Bool)) := do
  let (maps, visited) := state
  let (n, k) := position
  let address ← packedWeightAddress PackedLayout.valid layout partitionIndex n k
  guard (cell.weightOffset ≤ address.byteOffset)
  let delta := address.byteOffset - cell.weightOffset
  let slot := if partition.weightBits = 4 then delta * 2 + address.nibble else delta
  guard (delta < cell.weightBytes ∧ slot < cellWeightValues ∧ visited slot = false)
  pure
    ({ maps with
        weights := Function.update maps.weights (n * projectionBlockK + k)
          { byteOffset := delta, nibble := address.nibble } },
      Function.update visited slot true)

def mapScale (state : LocalMaps × (ℕ → Bool)) (position : ℕ × ℕ) :
    Option (LocalMaps × (ℕ → Bool)) := do
  let (maps, visited) := state
  let (n, group) := position
  let address ← packedScaleAddress PackedLayout.valid layout partitionIndex n group
  guard (cell.blockScaleOffset ≤ address.byteOffset)
  let delta := address.byteOffset - cell.blockScaleOffset
  guard (delta < cell.blockScaleBytes ∧ delta < cellScaleValues ∧ visited delta = false)
  pure
    ({ maps with
        scales := Function.update maps.scales (n * (projectionBlockK / 16) + group) delta },
      Function.update visited delta true)

def mapWeights : Option LocalMaps := do
  let (maps, visited) ←
    (List.product (List.range projectionBlockN) (List.range projectionBlockK)).foldlM
      (mapWeight layout partitionIndex partition cell) ({}, fun _ => false)
  guard (∀ slot < cellWeightValues, visited slot = true)
  pure maps

def mapScales (maps : LocalMaps) : Option LocalMaps := do
  let (maps, visited) ←
    (List.product (List.range projectionBlockN) (List.range (projectionBlockK / 16))).foldlM
      (mapScale layout partitionIndex cell) (maps, fun _ => false)
  guard (∀ slot < cellScaleValues, visited slot = true)
  pure maps

def buildLocalMaps : Option LocalMaps := do
  let partition ← layout.partitions[partitionIndex]?
  let cell ← packedCell PackedLayout.valid layout partitionIndex 0 0
  let maps ← mapWeights layout partitionIndex partition cell
  if partition.blockScaleGroupK = 0 then
    guard (cell.blockScaleBytes = 0)
    pure maps
  else mapScales layout partitionIndex cell maps

end Maps

inductive PayloadWrite
  | nibble (offset index : ℕ) (value : UInt8)
  | byte (offset : ℕ) (value : UInt8)

def PayloadWrite.apply (payload : ℕ → UInt8) : PayloadWrite → ℕ → UInt8
  | .nibble offset index value =>
    Function.update payload offset (writeNibble (payload offset) index value)
  | .byte offset value => Function.update payload offset value

section Cell

variable (partition : PackedPartition) (source : SourceBytes) (maps : LocalMaps)
  (cell : PackedCell) (nTile kTile : ℕ)

def nibbleRowWrites (localN : ℕ) : List PayloadWrite :=
  let globalN := nTile * projectionBlockN + localN
  let sourceRow := globalN * (partition.inputFeatures / 2)
  (List.range (projectionBlockK / 2)).flatMap fun half =>
    let localK := 2 * half
    let globalK := kTile * projectionBlockK + localK
    let packed := source.packedWeight.contents (sourceRow + globalK / 2)
    (List.range 2).map fun pair =>
      let target := maps.weights (localN * projectionBlockK + localK + pair)
      .nibble (cell.weightOffset + target.byteOffset) target.nibble
        (packed >>> UInt8.ofNat (4 * pair))

def byteRowWrites (localN : ℕ) : List PayloadWrite :=
  let globalN := nTile * projectionBlockN + localN
  let sourceRow := globalN * partition.inputFeatures
  (List.range projectionBlockK).map fun localK =>
    let globalK := kTile * projectionBlockK + localK
    let target := maps.weights (localN * projectionBlockK + localK)
    .byte (cell.weightOffset + target.byteOffset)
      (source.packedWeight.contents (sourceRow + globalK))

def rowWrites (localN : ℕ) : List PayloadWrite :=
  if partition.weightBits = 4 then nibbleRowWrites partition source maps cell nTile kTile localN
  else byteRowWrites partition source maps cell nTile kTile localN

def scaleRowWrites (localN : ℕ) : List PayloadWrite :=
  let globalN := nTile * projectionBlockN + localN
  let sourceRow := globalN * (partition.inputFeatures / partition.blockScaleGroupK)
  (List.range (projectionBlockK / 16)).map fun group =>
    let globalGroup := kTile * (projectionBlockK / 16) + group
    .byte (cell.blockScaleOffset + maps.scales (localN * (projectionBlockK / 16) + group))
      (source.blockScale.contents (sourceRow + globalGroup))

-- The writes of one cell in their order: all its weights, then its block scales.
def cellWrites : List PayloadWrite :=
  (List.range projectionBlockN).flatMap
    (rowWrites partition source maps cell nTile kTile) ++
  if partition.blockScaleGroupK ≠ 0 then
    (List.range projectionBlockN).flatMap
      (scaleRowWrites partition source maps cell nTile kTile)
  else []

def nibbleRowMatches (payload : ℕ → UInt8) (localN : ℕ) : Prop :=
  let globalN := nTile * projectionBlockN + localN
  let sourceRow := globalN * (partition.inputFeatures / 2)
  ∀ localK < projectionBlockK,
    let globalK := kTile * projectionBlockK + localK
    let target := maps.weights (localN * projectionBlockK + localK)
    readNibble (source.packedWeight.contents (sourceRow + globalK / 2)) (globalK % 2) =
      readNibble (payload (cell.weightOffset + target.byteOffset)) target.nibble

def byteRowMatches (payload : ℕ → UInt8) (localN : ℕ) : Prop :=
  let globalN := nTile * projectionBlockN + localN
  let sourceRow := globalN * partition.inputFeatures
  ∀ localK < projectionBlockK,
    let globalK := kTile * projectionBlockK + localK
    let target := maps.weights (localN * projectionBlockK + localK)
    source.packedWeight.contents (sourceRow + globalK) =
      payload (cell.weightOffset + target.byteOffset)

def rowMatches (payload : ℕ → UInt8) (localN : ℕ) : Prop :=
  if partition.weightBits = 4 then
    nibbleRowMatches partition source maps cell nTile kTile payload localN
  else byteRowMatches partition source maps cell nTile kTile payload localN

def scaleRowMatches (payload : ℕ → UInt8) (localN : ℕ) : Prop :=
  let globalN := nTile * projectionBlockN + localN
  let sourceRow := globalN * (partition.inputFeatures / partition.blockScaleGroupK)
  ∀ group < projectionBlockK / 16,
    let globalGroup := kTile * (projectionBlockK / 16) + group
    source.blockScale.contents (sourceRow + globalGroup) =
      payload (cell.blockScaleOffset +
        maps.scales (localN * (projectionBlockK / 16) + group))

instance (payload : ℕ → UInt8) (localN : ℕ) :
    Decidable (nibbleRowMatches partition source maps cell nTile kTile payload localN) :=
  inferInstanceAs (Decidable (∀ _ < _, _))

instance (payload : ℕ → UInt8) (localN : ℕ) :
    Decidable (byteRowMatches partition source maps cell nTile kTile payload localN) :=
  inferInstanceAs (Decidable (∀ _ < _, _))

instance (payload : ℕ → UInt8) (localN : ℕ) :
    Decidable (rowMatches partition source maps cell nTile kTile payload localN) :=
  inferInstanceAs (Decidable (if partition.weightBits = 4 then
    nibbleRowMatches partition source maps cell nTile kTile payload localN
    else byteRowMatches partition source maps cell nTile kTile payload localN))

instance (payload : ℕ → UInt8) (localN : ℕ) :
    Decidable (scaleRowMatches partition source maps cell nTile kTile payload localN) :=
  inferInstanceAs (Decidable (∀ _ < _, _))

end Cell

section Payload

variable (layout : PackedLayout) (sources : SourceSet) (payloadBytes : ℕ)

def tiles (partition : PackedPartition) : List (ℕ × ℕ) :=
  List.product (List.range partition.nTiles) (List.range partition.kTiles)

def transformCell (partitionIndex : ℕ) (partition : PackedPartition) (maps : LocalMaps)
    (payload : ℕ → UInt8) (tile : ℕ × ℕ) : Except (AssetError × (ℕ → UInt8)) (ℕ → UInt8) :=
  match packedCell PackedLayout.valid layout partitionIndex tile.1 tile.2 with
  | none => .error (.payloadSizeMismatch, payload)
  | some cell =>
    if payloadBytes < cell.payloadOffset + cell.cellBytes then
      .error (.payloadSizeMismatch, payload)
    else
      .ok ((cellWrites partition (sources.sources partitionIndex) maps cell tile.1 tile.2).foldl
        PayloadWrite.apply payload)

def transformPartition (payload : ℕ → UInt8) (indexed : PackedPartition × ℕ) :
    Except (AssetError × (ℕ → UInt8)) (ℕ → UInt8) :=
  match buildLocalMaps layout indexed.2 with
  | none => .error (.payloadBijectionMismatch, payload)
  | some maps =>
    (tiles indexed.1).foldlM
      (transformCell layout sources payloadBytes indexed.2 indexed.1 maps) payload

-- An error comes with the payload as far as it was written.
def transformPayload : Except (AssetError × (ℕ → UInt8)) (ℕ → UInt8) :=
  layout.partitions.zipIdx.foldlM (transformPartition layout sources payloadBytes) fun _ => 0

def scanCell (payload : ℕ → UInt8) (partitionIndex : ℕ) (tile : ℕ × ℕ) :
    Except AssetError Unit :=
  match packedCell PackedLayout.valid layout partitionIndex tile.1 tile.2 with
  | none => .error .payloadSizeMismatch
  | some cell =>
    if payloadBytes < cell.blockScaleOffset + cell.blockScaleBytes then
      .error .payloadSizeMismatch
    else if ∃ byte < cell.blockScaleBytes,
        blockScaleCodeIsForbidden (payload (cell.blockScaleOffset + byte)) then
      .error .forbiddenNvFp4BlockScale
    else .ok ⟨⟩

def scanPayloadScales (payload : ℕ → UInt8) : Except AssetError Unit :=
  checkAll (fun indexed : PackedPartition × ℕ =>
    if indexed.1.blockScaleGroupK = 0 then .ok ⟨⟩
    else checkAll (scanCell layout payloadBytes payload indexed.2) (tiles indexed.1))
    layout.partitions.zipIdx

def verifyCell (payload : ℕ → UInt8) (partitionIndex : ℕ) (partition : PackedPartition)
    (maps : LocalMaps) (tile : ℕ × ℕ) : Except AssetError Unit :=
  let source := sources.sources partitionIndex
  match packedCell PackedLayout.valid layout partitionIndex tile.1 tile.2 with
  | none => .error .payloadSizeMismatch
  | some cell =>
    if payloadBytes < cell.payloadOffset + cell.cellBytes then .error .payloadSizeMismatch
    else if ¬ ∀ localN < projectionBlockN,
        rowMatches partition source maps cell tile.1 tile.2 payload localN then
      .error .payloadBijectionMismatch
    else if partition.blockScaleGroupK ≠ 0 ∧ ¬ ∀ localN < projectionBlockN,
        scaleRowMatches partition source maps cell tile.1 tile.2 payload localN then
      .error .payloadBijectionMismatch
    else .ok ⟨⟩

def verifyPayloadBijection (payload : ℕ → UInt8) : Except AssetError Unit :=
  checkAll (fun indexed : PackedPartition × ℕ =>
    match buildLocalMaps layout indexed.2 with
    | none => .error .payloadBijectionMismatch
    | some maps =>
      checkAll (verifyCell layout sources payloadBytes payload indexed.2 indexed.1 maps)
        (tiles indexed.1))
    layout.partitions.zipIdx

end Payload

end Qwen3xOrin.Packed
