import Qwen3xOrin.Io.Tensor

/-! The packed projection layout: which partitions a projection role has and where each of them
lies in the payload. -/

namespace Qwen3xOrin.Packed

open Io

inductive ProjectionRole
  | invalid
  | nvFp4GateUp
  | nvFp4Down
  | fp8GdnQkvZ
  | fp8FullQkv
  | fp8AttentionOutput
  | count
  deriving DecidableEq, Repr

inductive ProjectionEncoding
  | invalid
  | nvFp4E2M1Block16E4M3FnScale
  | fp8E4M3FnTensorScale
  deriving DecidableEq, Repr

inductive LogicalRole
  | invalid
  | nvFp4Gate
  | nvFp4Up
  | nvFp4Down
  | fp8GdnQkv
  | fp8GdnZ
  | fp8FullQGate
  | fp8FullK
  | fp8FullV
  | fp8AttentionOutput
  deriving DecidableEq, Repr

inductive PackedPlanIdentity
  | invalid
  | nvFp4GateUpM128N256K64V1
  | nvFp4DownM128N256K64V1
  | fp8GdnQkvZM128N256K64V1
  | fp8FullQkvM128N256K64V1
  | fp8AttentionOutputM128N256K64V1
  deriving DecidableEq, Repr

inductive PackedLayoutIdentity
  | invalid
  | consumerN64K16LaneComponentV1
  deriving DecidableEq, Repr

def projectionHidden : ℕ := 5120
def projectionIntermediate : ℕ := 17408
def projectionMergedGateUp : ℕ := 34816
def projectionBlockM : ℕ := 128
def projectionBlockN : ℕ := 256
def projectionBlockK : ℕ := 64
def projectionPipelineStages : ℕ := 3
def projectionThreads : ℕ := 256
def projectionMaximumPartitions : ℕ := 3

def packedAlignment : ℕ := 256
def packedVectorBytes : ℕ := 16
def packedNWarpCount : ℕ := 4
def packedMWarpCount : ℕ := 2
def packedNPerWarp : ℕ := 64
def packedN8Panels : ℕ := 8
def packedK16s : ℕ := 4
def packedLanes : ℕ := 32

structure ProjectionPartition where
  role : LogicalRole
  outputOffset : ℕ
  outputFeatures : ℕ
  deriving DecidableEq, Repr

-- The part of the projection plan of a role that the packed layout takes over.
structure ProjectionPlan where
  encoding : ProjectionEncoding
  inputFeatures : ℕ
  projectedOutputFeatures : ℕ
  partitions : List ProjectionPartition
  deriving DecidableEq, Repr

def projectionPlan : ProjectionRole → Option ProjectionPlan
  | .invalid => none
  | .nvFp4GateUp => some
    { encoding := .nvFp4E2M1Block16E4M3FnScale
      inputFeatures := projectionHidden
      projectedOutputFeatures := projectionMergedGateUp
      partitions :=
        [⟨.nvFp4Gate, 0, projectionIntermediate⟩,
         ⟨.nvFp4Up, projectionIntermediate, projectionIntermediate⟩] }
  | .nvFp4Down => some
    { encoding := .nvFp4E2M1Block16E4M3FnScale
      inputFeatures := projectionIntermediate
      projectedOutputFeatures := projectionHidden
      partitions := [⟨.nvFp4Down, 0, projectionHidden⟩] }
  | .fp8GdnQkvZ => some
    { encoding := .fp8E4M3FnTensorScale
      inputFeatures := projectionHidden
      projectedOutputFeatures := 16384
      partitions := [⟨.fp8GdnQkv, 0, 10240⟩, ⟨.fp8GdnZ, 10240, 6144⟩] }
  | .fp8FullQkv => some
    { encoding := .fp8E4M3FnTensorScale
      inputFeatures := projectionHidden
      projectedOutputFeatures := 14336
      partitions :=
        [⟨.fp8FullQGate, 0, 12288⟩, ⟨.fp8FullK, 12288, 1024⟩, ⟨.fp8FullV, 13312, 1024⟩] }
  | .fp8AttentionOutput => some
    { encoding := .fp8E4M3FnTensorScale
      inputFeatures := 6144
      projectedOutputFeatures := projectionHidden
      partitions := [⟨.fp8AttentionOutput, 0, projectionHidden⟩] }
  | .count => none

structure PackedPartition where
  logicalRole : LogicalRole := .invalid
  partitionIndex : ℕ := 0
  globalNOffset : ℕ := 0
  outputFeatures : ℕ := 0
  inputFeatures : ℕ := 0
  nTiles : ℕ := 0
  kTiles : ℕ := 0
  weightBits : ℕ := 0
  blockScaleGroupK : ℕ := 0
  weightBytesPerCell : ℕ := 0
  blockScaleBytesPerCell : ℕ := 0
  cellBytes : ℕ := 0
  payloadOffset : ℕ := 0
  payloadBytes : ℕ := 0
  independentSource : Bool := false
  independentTensorScale : Bool := false
  deriving DecidableEq, Repr

-- The slots of the partition array that are in use.
structure PackedLayout where
  role : ProjectionRole := .invalid
  planIdentity : PackedPlanIdentity := .invalid
  layoutIdentity : PackedLayoutIdentity := .invalid
  encoding : ProjectionEncoding := .invalid
  projectedOutputFeatures : ℕ := 0
  inputFeatures : ℕ := 0
  partitions : List PackedPartition := []
  payloadBytes : ℕ := 0
  payloadAlignment : ℕ := 0
  g2sVectorBytes : ℕ := 0
  blockM : ℕ := 0
  blockN : ℕ := 0
  blockK : ℕ := 0
  pipelineStages : ℕ := 0
  ctaThreads : ℕ := 0
  nWarps : ℕ := 0
  mWarps : ℕ := 0
  tokenCountIndependent : Bool := false
  cudaImplementationPresent : Bool := false
  staticResourcesQualified : Bool := false
  numericalContractQualified : Bool := false
  productionDispatchEligible : Bool := false
  deriving DecidableEq, Repr

def packedPlanIdentity : ProjectionRole → PackedPlanIdentity
  | .nvFp4GateUp => .nvFp4GateUpM128N256K64V1
  | .nvFp4Down => .nvFp4DownM128N256K64V1
  | .fp8GdnQkvZ => .fp8GdnQkvZM128N256K64V1
  | .fp8FullQkv => .fp8FullQkvM128N256K64V1
  | .fp8AttentionOutput => .fp8AttentionOutputM128N256K64V1
  | .invalid | .count => .invalid

def packedPartition (nvfp4 : Bool) (inputFeatures index cursor : ℕ)
    (source : ProjectionPartition) : PackedPartition :=
  let weightBits := if nvfp4 then 4 else 8
  let weightBytesPerCell := projectionBlockN * projectionBlockK * weightBits / 8
  let scaleBytesPerCell := if nvfp4 then projectionBlockN * (projectionBlockK / 16) else 0
  let cellBytes := weightBytesPerCell + scaleBytesPerCell
  let nTiles := source.outputFeatures / projectionBlockN
  let kTiles := inputFeatures / projectionBlockK
  { logicalRole := source.role
    partitionIndex := index
    globalNOffset := source.outputOffset
    outputFeatures := source.outputFeatures
    inputFeatures := inputFeatures
    nTiles := nTiles
    kTiles := kTiles
    weightBits := weightBits
    blockScaleGroupK := if nvfp4 then 16 else 0
    weightBytesPerCell := weightBytesPerCell
    blockScaleBytesPerCell := scaleBytesPerCell
    cellBytes := cellBytes
    payloadOffset := cursor
    payloadBytes := nTiles * kTiles * cellBytes
    independentSource := true
    independentTensorScale := true }

-- The running cursor gives every partition its payload range; it ends at the payload size.
def packedPartitions (nvfp4 : Bool) (inputFeatures : ℕ) :
    ℕ → ℕ → List ProjectionPartition → List PackedPartition × ℕ
  | _, cursor, [] => ([], cursor)
  | index, cursor, source :: sources =>
    let partition := packedPartition nvfp4 inputFeatures index cursor source
    let (partitions, total) :=
      packedPartitions nvfp4 inputFeatures (index + 1) (cursor + partition.payloadBytes) sources
    (partition :: partitions, total)

def packedLayout (role : ProjectionRole) : PackedLayout :=
  match projectionPlan role with
  | none => {}
  | some projection =>
    let nvfp4 := decide (projection.encoding = .nvFp4E2M1Block16E4M3FnScale)
    let (partitions, payloadBytes) :=
      packedPartitions nvfp4 projection.inputFeatures 0 0 projection.partitions
    { role := role
      planIdentity := packedPlanIdentity role
      layoutIdentity := .consumerN64K16LaneComponentV1
      encoding := projection.encoding
      projectedOutputFeatures := projection.projectedOutputFeatures
      inputFeatures := projection.inputFeatures
      partitions := partitions
      payloadBytes := payloadBytes
      payloadAlignment := packedAlignment
      g2sVectorBytes := packedVectorBytes
      blockM := projectionBlockM
      blockN := projectionBlockN
      blockK := projectionBlockK
      pipelineStages := projectionPipelineStages
      ctaThreads := projectionThreads
      nWarps := packedNWarpCount
      mWarps := packedMWarpCount
      tokenCountIndependent := true }

def PackedLayout.valid (layout : PackedLayout) : Bool :=
  decide (layout.role ≠ .invalid ∧ layout.role ≠ .count ∧ layout = packedLayout layout.role)

lemma packedLayout_role {role : ProjectionRole} (h : role ≠ .invalid) (h' : role ≠ .count) :
    (packedLayout role).role = role := by
  cases role <;> first | rfl | contradiction

lemma packedLayout_valid {role : ProjectionRole} (h : role ≠ .invalid) (h' : role ≠ .count) :
    (packedLayout role).valid = true := by
  unfold PackedLayout.valid
  rw [packedLayout_role h h']
  exact decide_eq_true ⟨h, h', rfl⟩

-- What the address functions rely on in a partition, for either weight format.
structure PackedPartition.WellFormed (partition : PackedPartition) : Prop where
  output : projectionBlockN ∣ partition.outputFeatures
  input : projectionBlockK ∣ partition.inputFeatures
  nTiles : partition.nTiles = partition.outputFeatures / projectionBlockN
  kTiles : partition.kTiles = partition.inputFeatures / projectionBlockK
  format : (partition.weightBits = 4 ∧ partition.blockScaleGroupK = 16 ∧
      partition.weightBytesPerCell = 8192 ∧ partition.blockScaleBytesPerCell = 1024) ∨
    (partition.weightBits = 8 ∧ partition.blockScaleGroupK = 0 ∧
      partition.weightBytesPerCell = 16384 ∧ partition.blockScaleBytesPerCell = 0)
  cellBytes : partition.cellBytes =
    partition.weightBytesPerCell + partition.blockScaleBytesPerCell
  payloadBytes : partition.payloadBytes = partition.nTiles * partition.kTiles * partition.cellBytes

-- Partitions one behind the other, from `cursor` to `total`.
def Stacked : ℕ → List PackedPartition → ℕ → Prop
  | cursor, [], total => cursor = total
  | cursor, partition :: partitions, total =>
    partition.payloadOffset = cursor ∧
      Stacked (cursor + partition.payloadBytes) partitions total

structure PackedTable (layout : PackedLayout) : Prop where
  partitions : ∀ partition ∈ layout.partitions, partition.WellFormed
  stacked : Stacked 0 layout.partitions layout.payloadBytes
  fits : layout.payloadBytes ≤ uint64Max

lemma packedPartition_wellFormed (nvfp4 : Bool) {inputFeatures : ℕ} (index cursor : ℕ)
    {source : ProjectionPartition} (hinput : projectionBlockK ∣ inputFeatures)
    (houtput : projectionBlockN ∣ source.outputFeatures) :
    (packedPartition nvfp4 inputFeatures index cursor source).WellFormed where
  output := houtput
  input := hinput
  nTiles := rfl
  kTiles := rfl
  format := by
    cases nvfp4
    · exact Or.inr ⟨rfl, rfl, rfl, rfl⟩
    · exact Or.inl ⟨rfl, rfl, rfl, rfl⟩
  cellBytes := rfl
  payloadBytes := rfl

lemma packedPartitions_wellFormed {nvfp4 : Bool} {inputFeatures : ℕ}
    (hinput : projectionBlockK ∣ inputFeatures) {index cursor : ℕ}
    {sources : List ProjectionPartition}
    (houtput : ∀ source ∈ sources, projectionBlockN ∣ source.outputFeatures)
    {partition : PackedPartition}
    (hmem : partition ∈ (packedPartitions nvfp4 inputFeatures index cursor sources).1) :
    partition.WellFormed := by
  induction sources generalizing index cursor with
  | nil => cases hmem
  | cons source sources ih =>
    rw [packedPartitions] at hmem
    obtain rfl | hmem := List.mem_cons.mp hmem
    · exact packedPartition_wellFormed nvfp4 index cursor hinput (houtput source List.mem_cons_self)
    · exact ih (fun s hs => houtput s (List.mem_cons_of_mem _ hs)) hmem

lemma packedPartitions_stacked (nvfp4 : Bool) (inputFeatures index cursor : ℕ)
    (sources : List ProjectionPartition) :
    Stacked cursor (packedPartitions nvfp4 inputFeatures index cursor sources).1
      (packedPartitions nvfp4 inputFeatures index cursor sources).2 := by
  induction sources generalizing index cursor with
  | nil => rfl
  | cons source sources ih => exact ⟨rfl, ih _ _⟩

-- Any list of aligned partitions gives a table, as long as its payload size is a 64-bit number.
lemma packedPartitions_table {layout : PackedLayout} {nvfp4 : Bool} {inputFeatures : ℕ}
    {sources : List ProjectionPartition} (hinput : projectionBlockK ∣ inputFeatures)
    (houtput : ∀ source ∈ sources, projectionBlockN ∣ source.outputFeatures)
    (hpartitions : layout.partitions = (packedPartitions nvfp4 inputFeatures 0 0 sources).1)
    (hbytes : layout.payloadBytes = (packedPartitions nvfp4 inputFeatures 0 0 sources).2)
    (hfits : layout.payloadBytes ≤ uint64Max) : PackedTable layout := by
  refine ⟨fun _ hmem => ?_, ?_, hfits⟩
  · rw [hpartitions] at hmem
    exact packedPartitions_wellFormed hinput houtput hmem
  · rw [hpartitions, hbytes]
    exact packedPartitions_stacked _ _ 0 0 _

lemma projectionPlan_aligned {role : ProjectionRole} {projection : ProjectionPlan}
    (h : projectionPlan role = some projection) :
    projectionBlockK ∣ projection.inputFeatures ∧
      (∀ source ∈ projection.partitions, projectionBlockN ∣ source.outputFeatures) ∧
      (packedLayout role).payloadBytes ≤ uint64Max := by
  cases role <;> cases h <;> decide

lemma packedLayout_table (role : ProjectionRole) : PackedTable (packedLayout role) := by
  cases h : projectionPlan role with
  | none =>
    rw [packedLayout, h]
    exact ⟨fun _ h => absurd h List.not_mem_nil, rfl, Nat.zero_le _⟩
  | some projection =>
    obtain ⟨hinput, houtput, hfits⟩ := projectionPlan_aligned h
    rw [packedLayout, h] at hfits ⊢
    exact packedPartitions_table hinput houtput rfl rfl hfits

end Qwen3xOrin.Packed
