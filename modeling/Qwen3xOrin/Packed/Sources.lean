import Qwen3xOrin.Library.Guard
import Qwen3xOrin.Packed.Layout

/-! The canonical sources of a packed asset and their inspection. Arrays of partitions are read at
indices below the maximum number of partitions only; SHA-256 is a parameter. -/

namespace Qwen3xOrin.Packed

open Io Library

inductive AssetError
  | invalidArgument
  | invalidLayout
  | sizeOverflow
  | sourceCountMismatch
  | sourceMetadataMismatch
  | sourceSizeMismatch
  | sourceRangeOverflow
  | sourceAliasing
  | sourceDigestMismatch
  | forbiddenNvFp4BlockScale
  | payloadSizeMismatch
  | payloadRangeOverflow
  | payloadAliasing
  | payloadDigestMismatch
  | payloadBijectionMismatch
  | manifestMismatch
  | transformReceiptMismatch
  deriving DecidableEq, Repr

-- A host view: its address (zero is null), its length and what it holds.
structure Bytes where
  data : ℕ := 0
  bytes : ℕ := 0
  contents : ℕ → UInt8 := fun _ => 0

def Bytes.toList (span : Bytes) : List UInt8 := (List.range span.bytes).map span.contents

def constSpanWellFormed (span : Bytes) : Prop :=
  span.bytes = 0 ∨ (span.data ≠ 0 ∧ span.bytes ≤ uint64Max - span.data)

def mutableSpanWellFormed (span : Bytes) : Prop :=
  span.data ≠ 0 ∧ span.bytes ≠ 0 ∧ span.bytes ≤ uint64Max - span.data

instance (span : Bytes) : Decidable (constSpanWellFormed span) :=
  inferInstanceAs (Decidable (_ ∨ _))

instance (span : Bytes) : Decidable (mutableSpanWellFormed span) :=
  inferInstanceAs (Decidable (_ ∧ _))

def rangesOverlap (left right : Bytes) : Prop :=
  left.bytes ≠ 0 ∧ right.bytes ≠ 0 ∧ left.data < right.data + right.bytes ∧
    right.data < left.data + left.bytes

instance (left right : Bytes) : Decidable (rangesOverlap left right) :=
  inferInstanceAs (Decidable (_ ∧ _))

abbrev Digest := Vector UInt8 32

def digestIsZero (digest : Digest) : Prop := ∀ byte ∈ digest.toList, byte = 0

instance (digest : Digest) : Decidable (digestIsZero digest) :=
  List.decidableBAll _ _

def scaleBitsValid (bits : UInt32) : Prop :=
  bits &&& 0x80000000 = 0 ∧ bits &&& 0x7fffffff ≠ 0 ∧ bits &&& 0x7f800000 ≠ 0x7f800000

instance (bits : UInt32) : Decidable (scaleBitsValid bits) :=
  inferInstanceAs (Decidable (_ ∧ _))

def blockScaleCodeIsForbidden (code : UInt8) : Prop :=
  (code = 0x7f ∨ code = 0xff) ∨ (code &&& 0x80 ≠ 0 ∧ code &&& 0x7f ≠ 0)

instance (code : UInt8) : Decidable (blockScaleCodeIsForbidden code) :=
  inferInstanceAs (Decidable (_ ∨ _))

structure SourceBytes where
  logicalRole : LogicalRole := .invalid
  tensorIdentity : UInt64 := 0
  outputFeatures : ℕ := 0
  inputFeatures : ℕ := 0
  packedWeight : Bytes := {}
  blockScale : Bytes := {}
  tensorScaleBits : UInt32 := 0

structure SourceSet where
  role : ProjectionRole := .invalid
  inventoryIdentity : UInt64 := 0
  sourceCount : ℕ := 0
  sources : ℕ → SourceBytes := fun _ => {}

def sourceIsZero (source : SourceBytes) : Prop :=
  source.logicalRole = .invalid ∧ source.tensorIdentity = 0 ∧ source.outputFeatures = 0 ∧
    source.inputFeatures = 0 ∧ source.packedWeight.data = 0 ∧ source.packedWeight.bytes = 0 ∧
    source.blockScale.data = 0 ∧ source.blockScale.bytes = 0 ∧ source.tensorScaleBits = 0

instance (source : SourceBytes) : Decidable (sourceIsZero source) :=
  inferInstanceAs (Decidable (_ ∧ _))

structure SourceBinding where
  logicalRole : LogicalRole := .invalid
  partitionIndex : ℕ := 0
  tensorIdentity : UInt64 := 0
  weightDigest : Digest := Vector.replicate 32 0
  scaleDigest : Digest := Vector.replicate 32 0
  outputFeatures : ℕ := 0
  inputFeatures : ℕ := 0
  tensorScaleBits : UInt32 := 0
  payloadOffset : ℕ := 0
  payloadBytes : ℕ := 0
  deriving DecidableEq

structure SourceInventory where
  identity : UInt64 := 0
  role : ProjectionRole := .invalid
  sourceCount : ℕ := 0
  sources : ℕ → SourceBinding := fun _ => {}

def sourceBindingIsZero (source : SourceBinding) : Prop :=
  source.logicalRole = .invalid ∧ source.partitionIndex = 0 ∧ source.tensorIdentity = 0 ∧
    digestIsZero source.weightDigest ∧ digestIsZero source.scaleDigest ∧
    source.outputFeatures = 0 ∧ source.inputFeatures = 0 ∧ source.tensorScaleBits = 0 ∧
    source.payloadOffset = 0 ∧ source.payloadBytes = 0

instance (source : SourceBinding) : Decidable (sourceBindingIsZero source) :=
  inferInstanceAs (Decidable (_ ∧ _))

def packedSourceBinding (layout : PackedLayout) (partitionIndex : ℕ) (tensorIdentity : UInt64)
    (weightDigest scaleDigest : Digest) (tensorScaleBits : UInt32) : SourceBinding :=
  if layout.valid = false then {}
  else match layout.partitions[partitionIndex]? with
    | none => {}
    | some partition =>
      { logicalRole := partition.logicalRole
        partitionIndex := partitionIndex
        tensorIdentity := tensorIdentity
        weightDigest := weightDigest
        scaleDigest := scaleDigest
        outputFeatures := partition.outputFeatures
        inputFeatures := partition.inputFeatures
        tensorScaleBits := tensorScaleBits
        payloadOffset := partition.payloadOffset
        payloadBytes := partition.payloadBytes }

def SourceBinding.agrees (source : SourceBinding) (index : ℕ) (partition : PackedPartition) :
    Prop :=
  source.logicalRole = partition.logicalRole ∧ source.partitionIndex = index ∧
    source.tensorIdentity ≠ 0 ∧ ¬ digestIsZero source.weightDigest ∧
    ¬ digestIsZero source.scaleDigest ∧ source.outputFeatures = partition.outputFeatures ∧
    source.inputFeatures = partition.inputFeatures ∧ scaleBitsValid source.tensorScaleBits ∧
    source.payloadOffset = partition.payloadOffset ∧
    source.payloadBytes = partition.payloadBytes

instance (source : SourceBinding) (index : ℕ) (partition : PackedPartition) :
    Decidable (source.agrees index partition) :=
  inferInstanceAs (Decidable (_ ∧ _))

def SourceInventory.entryValid (inventory : SourceInventory) (layout : PackedLayout)
    (index : ℕ) : Prop :=
  (inventory.sourceCount ≤ index → sourceBindingIsZero (inventory.sources index)) ∧
    (index < inventory.sourceCount →
      (inventory.sources index).agrees index (layout.partitions.getD index {}) ∧
        ∀ prior < index, (inventory.sources index).tensorIdentity ≠
          (inventory.sources prior).tensorIdentity)

instance (inventory : SourceInventory) (layout : PackedLayout) (index : ℕ) :
    Decidable (inventory.entryValid layout index) :=
  inferInstanceAs (Decidable ((_ → _) ∧ (_ → _)))

def SourceInventory.valid (inventory : SourceInventory) (layout : PackedLayout) : Prop :=
  layout.valid = true ∧ inventory.identity ≠ 0 ∧ inventory.role = layout.role ∧
    inventory.sourceCount = layout.partitions.length ∧
    ∀ index < projectionMaximumPartitions, inventory.entryValid layout index

instance (inventory : SourceInventory) (layout : PackedLayout) :
    Decidable (inventory.valid layout) :=
  inferInstanceAs (Decidable (_ ∧ _))

def partitionValues (partition : PackedPartition) : ℕ :=
  partition.outputFeatures * partition.inputFeatures

def expectedWeightBytes (partition : PackedPartition) : ℕ :=
  partitionValues partition * partition.weightBits / 8

def expectedScaleBytes (partition : PackedPartition) : ℕ :=
  if partition.blockScaleGroupK = 0 then 0
  else partitionValues partition / partition.blockScaleGroupK

section Inspect

variable (sha256 : List UInt8 → Digest)

def projectionSha256 (span : Bytes) : Option Digest :=
  if constSpanWellFormed span then some (sha256 span.toList) else none

def littleEndian (bits : UInt32) : List UInt8 :=
  [bits.toUInt8, (bits >>> 8).toUInt8, (bits >>> 16).toUInt8, (bits >>> 24).toUInt8]

-- The hasher takes a null view only when it is empty, and refuses more than 64 bits of length.
def scaleDigest (blockScale : Bytes) (tensorScaleBits : UInt32) : Option Digest :=
  if (blockScale.data = 0 ∧ blockScale.bytes ≠ 0) ∨ uint64Max - blockScale.bytes < 4 then none
  else some (sha256 (blockScale.toList ++ littleEndian tensorScaleBits))

def checkMetadata (sources : SourceSet) (partition : PackedPartition) (index : ℕ) :
    Except AssetError Unit :=
  let source := sources.sources index
  if source.logicalRole ≠ partition.logicalRole ∨ source.tensorIdentity = 0 ∨
      source.outputFeatures ≠ partition.outputFeatures ∨
      source.inputFeatures ≠ partition.inputFeatures ∨ ¬ scaleBitsValid source.tensorScaleBits then
    .error .sourceMetadataMismatch
  else if ∃ prior < index, source.tensorIdentity = (sources.sources prior).tensorIdentity then
    .error .sourceMetadataMismatch
  else if ¬ constSpanWellFormed source.packedWeight ∨ ¬ constSpanWellFormed source.blockScale then
    .error .sourceRangeOverflow
  else if uint64Max < expectedWeightBytes partition ∨ uint64Max < expectedScaleBytes partition then
    .error .sizeOverflow
  else if source.packedWeight.bytes ≠ expectedWeightBytes partition ∨
      source.blockScale.bytes ≠ expectedScaleBytes partition ∨ source.packedWeight.data = 0 ∨
      (expectedScaleBytes partition ≠ 0 ∧ source.blockScale.data = 0) ∨
      (expectedScaleBytes partition = 0 ∧ source.blockScale.data ≠ 0) then
    .error .sourceSizeMismatch
  else .ok ⟨⟩

def sourceRanges (source : SourceBytes) : List Bytes :=
  if source.blockScale.bytes ≠ 0 then [source.packedWeight, source.blockScale]
  else [source.packedWeight]

structure Inspection where
  inventory : SourceInventory
  ranges : List Bytes := []

def inspectSource (layout : PackedLayout) (sources : SourceSet) (inspection : Inspection)
    (index : ℕ) : Except AssetError Inspection :=
  let source := sources.sources index
  if sources.sourceCount ≤ index then
    if sourceIsZero source then .ok inspection else .error .sourceCountMismatch
  else do
    checkMetadata sources (layout.partitions.getD index {}) index
    let ranges := inspection.ranges ++ sourceRanges source
    if ¬ ranges.Pairwise (fun left right => ¬ rangesOverlap left right) then
      .error .sourceAliasing
    else if ∃ scale < source.blockScale.bytes,
        blockScaleCodeIsForbidden (source.blockScale.contents scale) then
      .error .forbiddenNvFp4BlockScale
    else match projectionSha256 sha256 source.packedWeight,
        scaleDigest sha256 source.blockScale source.tensorScaleBits with
      | some weightDigest, some scales =>
        .ok
          { ranges := ranges
            inventory := { inspection.inventory with
              sources := Function.update inspection.inventory.sources index
                (packedSourceBinding layout index source.tensorIdentity weightDigest scales
                  source.tensorScaleBits) } }
      | _, _ => .error .invalidArgument

def inspectSources (sources : SourceSet) : Except AssetError SourceInventory :=
  if sources.inventoryIdentity = 0 then .error .invalidArgument
  else
    let layout := packedLayout sources.role
    if layout.valid = false then .error .invalidLayout
    else if sources.sourceCount ≠ layout.partitions.length ∨
        projectionMaximumPartitions < sources.sourceCount then
      .error .sourceCountMismatch
    else do
      let inspection ← (List.range projectionMaximumPartitions).foldlM
        (inspectSource sha256 layout sources)
        { inventory :=
            { identity := sources.inventoryIdentity
              role := sources.role
              sourceCount := sources.sourceCount } }
      if inspection.inventory.valid layout then .ok inspection.inventory
      else .error .sourceMetadataMismatch

end Inspect

end Qwen3xOrin.Packed
