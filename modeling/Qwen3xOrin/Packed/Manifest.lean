import Qwen3xOrin.Packed.Address
import Qwen3xOrin.Packed.Sources

/-! The sealed manifest of a packed asset and the receipt of its transform. The seal is a 64-bit
FNV-1a hash of every other field of the manifest. -/

namespace Qwen3xOrin.Packed

open Io Library

def packedMagic : Vector UInt8 8 := #v[0x51, 0x33, 0x58, 0x41, 0x4f, 0x54, 0x50, 0x31]
def packedAbiMajor : ℕ := 1
def packedAbiMinor : ℕ := 0
def packedHeaderBytes : ℕ := 4096

def packedAligned (value alignment : ℕ) : Prop := alignment ≠ 0 ∧ value % alignment = 0

instance (value alignment : ℕ) : Decidable (packedAligned value alignment) :=
  inferInstanceAs (Decidable (_ ∧ _))

structure PackedManifest where
  magic : Vector UInt8 8 := Vector.replicate 8 0
  abiMajor : ℕ := 0
  abiMinor : ℕ := 0
  headerBytes : ℕ := 0
  artifactIdentity : UInt64 := 0
  role : ProjectionRole := .invalid
  planIdentity : PackedPlanIdentity := .invalid
  layoutIdentity : PackedLayoutIdentity := .invalid
  encoding : ProjectionEncoding := .invalid
  sourceInventoryIdentity : UInt64 := 0
  sourceCount : ℕ := 0
  sources : ℕ → SourceBinding := fun _ => {}
  payloadOffset : ℕ := 0
  payloadBytes : ℕ := 0
  artifactBytes : ℕ := 0
  payloadAlignment : ℕ := 0
  payloadDigest : Digest := Vector.replicate 32 0
  tokenCountIndependent : Bool := false
  cudaImplementationPresent : Bool := false
  staticResourcesQualified : Bool := false
  numericalContractQualified : Bool := false
  productionDispatchEligible : Bool := false
  manifestSeal : UInt64 := 0

structure PackedPayloadReceipt where
  artifactIdentity : UInt64 := 0
  observedPayloadOffset : ℕ := 0
  observedPayloadBytes : ℕ := 0
  observedPayloadDigest : Digest := Vector.replicate 32 0
  digestComputedFromPayloadBytes : Bool := false

inductive PackedTransformIdentity
  | invalid
  | canonicalNkToConsumerN64K16LaneComponentV1
  deriving DecidableEq, Repr

structure PartitionTransformReceipt where
  logicalRole : LogicalRole := .invalid
  partitionIndex : ℕ := 0
  tensorIdentity : UInt64 := 0
  observedSourceWeightDigest : Digest := Vector.replicate 32 0
  observedSourceScaleDigest : Digest := Vector.replicate 32 0
  sourceWeightBytesHashed : ℕ := 0
  sourceScaleBytesHashed : ℕ := 0
  repackedWeightValues : ℕ := 0
  repackedBlockScaleValues : ℕ := 0
  sourceBlockScaleBytesScanned : ℕ := 0
  payloadBlockScaleBytesScanned : ℕ := 0
  sourceForbiddenBlockScaleCodes : ℕ := 0
  payloadForbiddenBlockScaleCodes : ℕ := 0
  payloadOffset : ℕ := 0
  payloadBytes : ℕ := 0
  sourceDigestsComputedFromTensorBytes : Bool := false
  canonicalAddressBijectionApplied : Bool := false
  bitExactWeightPermutation : Bool := false
  bitExactBlockScalePermutation : Bool := false
  tensorScaleKeptExternal : Bool := false
  deriving DecidableEq

structure TransformReceipt where
  artifactIdentity : UInt64 := 0
  sourceInventoryIdentity : UInt64 := 0
  role : ProjectionRole := .invalid
  planIdentity : PackedPlanIdentity := .invalid
  layoutIdentity : PackedLayoutIdentity := .invalid
  encoding : ProjectionEncoding := .invalid
  transformIdentity : PackedTransformIdentity := .invalid
  partitionCount : ℕ := 0
  partitions : ℕ → PartitionTransformReceipt := fun _ => {}
  payload : PackedPayloadReceipt := {}
  deterministicTransform : Bool := false
  noArithmeticConversion : Bool := false
  noRequestTimeRepacking : Bool := false

section Seal

def manifestHashByte (hash : UInt64) (byte : UInt8) : UInt64 :=
  (hash ^^^ byte.toUInt64) * 1099511628211

def manifestHashBytes (hash : UInt64) (bytes : List UInt8) : UInt64 :=
  bytes.foldl manifestHashByte hash

def manifestHashU64 (hash value : UInt64) (bytes : ℕ) : UInt64 :=
  (List.range bytes).foldl
    (fun hash index => manifestHashByte hash (value >>> UInt64.ofNat (8 * index)).toUInt8) hash

def hashSourceBinding (hash : UInt64) (source : SourceBinding) : UInt64 :=
  let hash := manifestHashU64 hash (.ofNat source.logicalRole.ctorIdx) 1
  let hash := manifestHashU64 hash (.ofNat source.partitionIndex) 4
  let hash := manifestHashU64 hash source.tensorIdentity 8
  let hash := manifestHashBytes hash source.weightDigest.toList
  let hash := manifestHashBytes hash source.scaleDigest.toList
  let hash := manifestHashU64 hash (.ofNat source.outputFeatures) 4
  let hash := manifestHashU64 hash (.ofNat source.inputFeatures) 4
  let hash := manifestHashU64 hash source.tensorScaleBits.toUInt64 4
  let hash := manifestHashU64 hash (.ofNat source.payloadOffset) 8
  manifestHashU64 hash (.ofNat source.payloadBytes) 8

def computeManifestSeal (manifest : PackedManifest) : UInt64 :=
  let hash := manifestHashBytes 14695981039346656037 manifest.magic.toList
  let hash := manifestHashU64 hash (.ofNat manifest.abiMajor) 2
  let hash := manifestHashU64 hash (.ofNat manifest.abiMinor) 2
  let hash := manifestHashU64 hash (.ofNat manifest.headerBytes) 4
  let hash := manifestHashU64 hash manifest.artifactIdentity 8
  let hash := manifestHashU64 hash (.ofNat manifest.role.ctorIdx) 1
  let hash := manifestHashU64 hash (.ofNat manifest.planIdentity.ctorIdx) 2
  let hash := manifestHashU64 hash (.ofNat manifest.layoutIdentity.ctorIdx) 2
  let hash := manifestHashU64 hash (.ofNat manifest.encoding.ctorIdx) 1
  let hash := manifestHashU64 hash manifest.sourceInventoryIdentity 8
  let hash := manifestHashU64 hash (.ofNat manifest.sourceCount) 4
  let hash := (List.range projectionMaximumPartitions).foldl
    (fun hash index => hashSourceBinding hash (manifest.sources index)) hash
  let hash := manifestHashU64 hash (.ofNat manifest.payloadOffset) 8
  let hash := manifestHashU64 hash (.ofNat manifest.payloadBytes) 8
  let hash := manifestHashU64 hash (.ofNat manifest.artifactBytes) 8
  let hash := manifestHashU64 hash (.ofNat manifest.payloadAlignment) 4
  let hash := manifestHashBytes hash manifest.payloadDigest.toList
  let hash := manifestHashU64 hash (if manifest.tokenCountIndependent then 1 else 0) 1
  let hash := manifestHashU64 hash (if manifest.cudaImplementationPresent then 1 else 0) 1
  let hash := manifestHashU64 hash (if manifest.staticResourcesQualified then 1 else 0) 1
  let hash := manifestHashU64 hash (if manifest.numericalContractQualified then 1 else 0) 1
  manifestHashU64 hash (if manifest.productionDispatchEligible then 1 else 0) 1

end Seal

section Validate

def PackedManifest.inventory (manifest : PackedManifest) : SourceInventory where
  identity := manifest.sourceInventoryIdentity
  role := manifest.role
  sourceCount := manifest.sourceCount
  sources := manifest.sources

structure PackedManifest.MatchesLayout (manifest : PackedManifest) (layout : PackedLayout) :
    Prop where
  abiMajor : manifest.abiMajor = packedAbiMajor
  abiMinor : manifest.abiMinor = packedAbiMinor
  headerBytes : manifest.headerBytes = packedHeaderBytes
  artifactIdentity : manifest.artifactIdentity ≠ 0
  planIdentity : manifest.planIdentity = layout.planIdentity
  layoutIdentity : manifest.layoutIdentity = layout.layoutIdentity
  encoding : manifest.encoding = layout.encoding
  sourceInventoryIdentity : manifest.sourceInventoryIdentity ≠ 0
  sourceCount : manifest.sourceCount = layout.partitions.length
  payloadOffset : manifest.payloadOffset = packedHeaderBytes
  payloadBytes : manifest.payloadBytes = layout.payloadBytes
  payloadAlignment : manifest.payloadAlignment = layout.payloadAlignment
  aligned : packedAligned manifest.payloadOffset manifest.payloadAlignment
  fits : packedAddFits manifest.payloadOffset manifest.payloadBytes
  artifactBytes : manifest.artifactBytes = manifest.payloadOffset + manifest.payloadBytes
  payloadDigest : ¬ digestIsZero manifest.payloadDigest
  tokenCountIndependent : manifest.tokenCountIndependent = true
  cudaImplementationPresent : manifest.cudaImplementationPresent = false
  staticResourcesQualified : manifest.staticResourcesQualified = false
  numericalContractQualified : manifest.numericalContractQualified = false
  productionDispatchEligible : manifest.productionDispatchEligible = false

instance (manifest : PackedManifest) (layout : PackedLayout) :
    Decidable (manifest.MatchesLayout layout) :=
  decidable_of_iff (_ ∧ _ ∧ _ ∧ _ ∧ _ ∧ _ ∧ _ ∧ _ ∧ _ ∧ _ ∧ _ ∧ _ ∧ _ ∧ _ ∧ _ ∧ _ ∧ _ ∧ _ ∧
    _ ∧ _ ∧ _)
    ⟨fun ⟨h₁, h₂, h₃, h₄, h₅, h₆, h₇, h₈, h₉, h₁₀, h₁₁, h₁₂, h₁₃, h₁₄, h₁₅, h₁₆, h₁₇, h₁₈, h₁₉,
        h₂₀, h₂₁⟩ =>
      ⟨h₁, h₂, h₃, h₄, h₅, h₆, h₇, h₈, h₉, h₁₀, h₁₁, h₁₂, h₁₃, h₁₄, h₁₅, h₁₆, h₁₇, h₁₈, h₁₉, h₂₀,
        h₂₁⟩,
    fun h => ⟨h.1, h.2, h.3, h.4, h.5, h.6, h.7, h.8, h.9, h.10, h.11, h.12, h.13, h.14, h.15,
      h.16, h.17, h.18, h.19, h.20, h.21⟩⟩

def packedManifestStructurallyValid (manifest : PackedManifest) : Prop :=
  let layout := packedLayout manifest.role
  manifest.magic = packedMagic ∧ layout.valid = true ∧ manifest.MatchesLayout layout ∧
    manifest.manifestSeal ≠ 0 ∧ manifest.manifestSeal = computeManifestSeal manifest ∧
    manifest.inventory.valid layout

instance (manifest : PackedManifest) : Decidable (packedManifestStructurallyValid manifest) :=
  inferInstanceAs (Decidable (_ ∧ _))

-- Bindings are compared field by field, which is equality.
def validatePackedManifest (manifest : PackedManifest) (expected : SourceInventory) : Prop :=
  packedManifestStructurallyValid manifest ∧ expected.valid (packedLayout manifest.role) ∧
    expected.identity = manifest.sourceInventoryIdentity ∧ expected.role = manifest.role ∧
    expected.sourceCount = manifest.sourceCount ∧
    ∀ index < projectionMaximumPartitions, expected.sources index = manifest.sources index

instance (manifest : PackedManifest) (expected : SourceInventory) :
    Decidable (validatePackedManifest manifest expected) :=
  inferInstanceAs (Decidable (_ ∧ _))

def validatePayloadReceipt (manifest : PackedManifest) (receipt : PackedPayloadReceipt) : Prop :=
  packedManifestStructurallyValid manifest ∧ receipt.digestComputedFromPayloadBytes = true ∧
    receipt.artifactIdentity = manifest.artifactIdentity ∧
    receipt.observedPayloadOffset = manifest.payloadOffset ∧
    receipt.observedPayloadBytes = manifest.payloadBytes ∧
    ¬ digestIsZero receipt.observedPayloadDigest ∧
    receipt.observedPayloadDigest = manifest.payloadDigest

instance (manifest : PackedManifest) (receipt : PackedPayloadReceipt) :
    Decidable (validatePayloadReceipt manifest receipt) :=
  inferInstanceAs (Decidable (_ ∧ _))

def partitionTransformReceiptIsZero (receipt : PartitionTransformReceipt) : Prop :=
  receipt.logicalRole = .invalid ∧ receipt.partitionIndex = 0 ∧ receipt.tensorIdentity = 0 ∧
    digestIsZero receipt.observedSourceWeightDigest ∧
    digestIsZero receipt.observedSourceScaleDigest ∧ receipt.sourceWeightBytesHashed = 0 ∧
    receipt.sourceScaleBytesHashed = 0 ∧ receipt.repackedWeightValues = 0 ∧
    receipt.repackedBlockScaleValues = 0 ∧ receipt.sourceBlockScaleBytesScanned = 0 ∧
    receipt.payloadBlockScaleBytesScanned = 0 ∧ receipt.sourceForbiddenBlockScaleCodes = 0 ∧
    receipt.payloadForbiddenBlockScaleCodes = 0 ∧ receipt.payloadOffset = 0 ∧
    receipt.payloadBytes = 0 ∧ receipt.sourceDigestsComputedFromTensorBytes = false ∧
    receipt.canonicalAddressBijectionApplied = false ∧ receipt.bitExactWeightPermutation = false ∧
    receipt.bitExactBlockScalePermutation = false ∧ receipt.tensorScaleKeptExternal = false

instance (receipt : PartitionTransformReceipt) :
    Decidable (partitionTransformReceiptIsZero receipt) :=
  inferInstanceAs (Decidable (_ ∧ _))

def PartitionTransformReceipt.agrees (observed : PartitionTransformReceipt) (index : ℕ)
    (partition : PackedPartition) (source : SourceBinding) : Prop :=
  let values := partitionValues partition
  let sourceWeightBytes := values * partition.weightBits / 8
  let blockScaleValues :=
    if partition.blockScaleGroupK = 0 then 0 else values / partition.blockScaleGroupK
  let sourceScaleBytes := blockScaleValues + 4
  observed.logicalRole = partition.logicalRole ∧ observed.partitionIndex = index ∧
    observed.tensorIdentity = source.tensorIdentity ∧
    observed.observedSourceWeightDigest = source.weightDigest ∧
    observed.observedSourceScaleDigest = source.scaleDigest ∧
    observed.sourceWeightBytesHashed = sourceWeightBytes ∧
    observed.sourceScaleBytesHashed = sourceScaleBytes ∧
    observed.repackedWeightValues = values ∧
    observed.repackedBlockScaleValues = blockScaleValues ∧
    observed.sourceBlockScaleBytesScanned = blockScaleValues ∧
    observed.payloadBlockScaleBytesScanned = blockScaleValues ∧
    observed.sourceForbiddenBlockScaleCodes = 0 ∧ observed.payloadForbiddenBlockScaleCodes = 0 ∧
    observed.payloadOffset = partition.payloadOffset ∧
    observed.payloadBytes = partition.payloadBytes ∧
    observed.sourceDigestsComputedFromTensorBytes = true ∧
    observed.canonicalAddressBijectionApplied = true ∧ observed.bitExactWeightPermutation = true ∧
    observed.bitExactBlockScalePermutation = decide (blockScaleValues ≠ 0) ∧
    observed.tensorScaleKeptExternal = true

instance (observed : PartitionTransformReceipt) (index : ℕ) (partition : PackedPartition)
    (source : SourceBinding) : Decidable (observed.agrees index partition source) :=
  inferInstanceAs (Decidable (_ ∧ _))

def partitionReceiptValid (layout : PackedLayout) (expected : SourceInventory)
    (receipt : TransformReceipt) (index : ℕ) : Prop :=
  (receipt.partitionCount ≤ index →
    partitionTransformReceiptIsZero (receipt.partitions index)) ∧
  (index < receipt.partitionCount →
    (receipt.partitions index).agrees index (layout.partitions.getD index {})
      (expected.sources index))

instance (layout : PackedLayout) (expected : SourceInventory) (receipt : TransformReceipt)
    (index : ℕ) : Decidable (partitionReceiptValid layout expected receipt index) :=
  inferInstanceAs (Decidable ((_ → _) ∧ (_ → _)))

def validateTransformReceipt (manifest : PackedManifest) (expected : SourceInventory)
    (receipt : TransformReceipt) : Prop :=
  validatePackedManifest manifest expected ∧
    receipt.artifactIdentity = manifest.artifactIdentity ∧
    receipt.sourceInventoryIdentity = manifest.sourceInventoryIdentity ∧
    receipt.role = manifest.role ∧ receipt.planIdentity = manifest.planIdentity ∧
    receipt.layoutIdentity = manifest.layoutIdentity ∧ receipt.encoding = manifest.encoding ∧
    receipt.transformIdentity = .canonicalNkToConsumerN64K16LaneComponentV1 ∧
    receipt.partitionCount = manifest.sourceCount ∧ receipt.deterministicTransform = true ∧
    receipt.noArithmeticConversion = true ∧ receipt.noRequestTimeRepacking = true ∧
    validatePayloadReceipt manifest receipt.payload ∧
    ∀ index < projectionMaximumPartitions,
      partitionReceiptValid (packedLayout manifest.role) expected receipt index

instance (manifest : PackedManifest) (expected : SourceInventory) (receipt : TransformReceipt) :
    Decidable (validateTransformReceipt manifest expected receipt) :=
  inferInstanceAs (Decidable (_ ∧ _))

end Validate

section Make

def draftManifest (role : ProjectionRole) (artifactIdentity : UInt64) (sources : SourceInventory)
    (payloadDigest : Digest) : PackedManifest :=
  let layout := packedLayout role
  { magic := packedMagic
    abiMajor := packedAbiMajor
    abiMinor := packedAbiMinor
    headerBytes := packedHeaderBytes
    artifactIdentity := artifactIdentity
    role := role
    planIdentity := layout.planIdentity
    layoutIdentity := layout.layoutIdentity
    encoding := layout.encoding
    sourceInventoryIdentity := sources.identity
    sourceCount := sources.sourceCount
    sources := sources.sources
    payloadOffset := packedHeaderBytes
    payloadBytes := layout.payloadBytes
    artifactBytes := packedHeaderBytes + layout.payloadBytes
    payloadAlignment := layout.payloadAlignment
    payloadDigest := payloadDigest
    tokenCountIndependent := true }

def sealPackedManifest (manifest : PackedManifest) : Option PackedManifest :=
  let sealed := { manifest with manifestSeal := computeManifestSeal { manifest with manifestSeal := 0 } }
  if packedManifestStructurallyValid sealed then some sealed else none

def makePackedManifest (role : ProjectionRole) (artifactIdentity : UInt64)
    (sources : SourceInventory) (payloadDigest : Digest) : PackedManifest :=
  let layout := packedLayout role
  if layout.valid = false ∨ ¬ sources.valid layout ∨ digestIsZero payloadDigest ∨
      artifactIdentity = 0 ∨ ¬ packedAddFits packedHeaderBytes layout.payloadBytes then {}
  else (sealPackedManifest (draftManifest role artifactIdentity sources payloadDigest)).getD {}

def makePartitionReceipt (partition : PackedPartition) (index : ℕ) (source : SourceBinding) :
    PartitionTransformReceipt :=
  let values := partitionValues partition
  let weightBytes := values * partition.weightBits / 8
  let scaleValues :=
    if partition.blockScaleGroupK = 0 then 0 else values / partition.blockScaleGroupK
  { logicalRole := partition.logicalRole
    partitionIndex := index
    tensorIdentity := source.tensorIdentity
    observedSourceWeightDigest := source.weightDigest
    observedSourceScaleDigest := source.scaleDigest
    sourceWeightBytesHashed := weightBytes
    sourceScaleBytesHashed := scaleValues + 4
    repackedWeightValues := values
    repackedBlockScaleValues := scaleValues
    sourceBlockScaleBytesScanned := scaleValues
    payloadBlockScaleBytesScanned := scaleValues
    sourceForbiddenBlockScaleCodes := 0
    payloadForbiddenBlockScaleCodes := 0
    payloadOffset := partition.payloadOffset
    payloadBytes := partition.payloadBytes
    sourceDigestsComputedFromTensorBytes := true
    canonicalAddressBijectionApplied := true
    bitExactWeightPermutation := true
    bitExactBlockScalePermutation := decide (scaleValues ≠ 0)
    tensorScaleKeptExternal := true }

def makeTransformReceipt (layout : PackedLayout) (manifest : PackedManifest)
    (inventory : SourceInventory) : TransformReceipt where
  artifactIdentity := manifest.artifactIdentity
  sourceInventoryIdentity := inventory.identity
  role := layout.role
  planIdentity := layout.planIdentity
  layoutIdentity := layout.layoutIdentity
  encoding := layout.encoding
  transformIdentity := .canonicalNkToConsumerN64K16LaneComponentV1
  partitionCount := layout.partitions.length
  partitions index := match layout.partitions[index]? with
    | some partition => makePartitionReceipt partition index (inventory.sources index)
    | none => {}
  payload :=
    { artifactIdentity := manifest.artifactIdentity
      observedPayloadOffset := manifest.payloadOffset
      observedPayloadBytes := manifest.payloadBytes
      observedPayloadDigest := manifest.payloadDigest
      digestComputedFromPayloadBytes := true }
  deterministicTransform := true
  noArithmeticConversion := true
  noRequestTimeRepacking := true

end Make

end Qwen3xOrin.Packed
