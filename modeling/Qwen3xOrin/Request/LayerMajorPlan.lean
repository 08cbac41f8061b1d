import Qwen3xOrin.Request.MemoryPlan
import Qwen3xOrin.Request.WorkspaceValidity

/-! The layer-major memory plan of a request: one arena with the persistent state, a prompt-wide
residual, a family arena that the operator phases share, and the legacy buffers. -/

namespace Qwen3xOrin.Request

open Io Library
open Prefill (BuildConfig promptWideP40RequestCapacityTokens)

inductive LayerMajorRequestMlpLayout
  | panelLocalThreeSpan
  | layerWideP40PersistentTwoSpan
  | layerWideP40MarlinParityMergedGateUp
  deriving DecidableEq, Repr

inductive LayerMajorRequestLayout
  | c8192FamilyOverlay
  | p40WholeCorePromptWide
  deriving DecidableEq, Repr

structure LayerMajorRequestMemoryOptions where
  batchSize : ℕ := 1
  maxSequenceLength : ℕ := 0
  maxArenaBytes : ℕ := maximumRequestArenaBytes
  mlpLayout : LayerMajorRequestMlpLayout := .panelLocalThreeSpan
  layout : LayerMajorRequestLayout := .c8192FamilyOverlay
  deriving DecidableEq, Repr

section Regions

structure LayerMajorGdnPhaseRegions where
  qkvBf16 : RequestMatrixRegion := {}
  zBf16 : RequestMatrixRegion := {}
  aBf16 : RequestMatrixRegion := {}
  bBf16 : RequestMatrixRegion := {}
  recurrentCoreBf16 : RequestMatrixRegion := {}
  nativeC64Workspace : RequestRegion := {}
  normalizedInputBf16 : RequestMatrixRegion := {}
  inputProjectionTemporary : RequestRegion := {}
  branchOutputBf16 : RequestMatrixRegion := {}
  outputProjectionTemporary : RequestRegion := {}
  deriving DecidableEq

structure LayerMajorAttentionPhaseRegions where
  rawQGateBf16 : RequestMatrixRegion := {}
  processedQBf16 : RequestMatrixRegion := {}
  packedGateBf16 : RequestMatrixRegion := {}
  normalizedInputBf16 : RequestMatrixRegion := {}
  inputProjectionTemporary : RequestRegion := {}
  coreOutputBf16 : RequestMatrixRegion := {}
  branchOutputBf16 : RequestMatrixRegion := {}
  outputProjectionTemporary : RequestRegion := {}
  deriving DecidableEq

structure LayerMajorMlpPhaseRegions where
  mergedGateUpBf16 : RequestMatrixRegion := {}
  gateBf16 : RequestMatrixRegion := {}
  upBf16 : RequestMatrixRegion := {}
  activatedBf16 : RequestMatrixRegion := {}
  normalizedInputBf16 : RequestMatrixRegion := {}
  gateUpProjectionTemporary : RequestRegion := {}
  branchOutputBf16 : RequestMatrixRegion := {}
  downProjectionTemporary : RequestRegion := {}
  deriving DecidableEq

structure LayerMajorLegacyC512Regions where
  hiddenBf16 : Fin requestHiddenBufferCount → RequestMatrixRegion := fun _ => {}
  projectionBf16 : Fin requestProjectionBufferCount → RequestMatrixRegion := fun _ => {}
  linearABf16 : RequestMatrixRegion := {}
  linearBBf16 : RequestMatrixRegion := {}
  fp32Scratch : RequestRegion := {}
  gqaProbabilityScratch : RequestRegion := {}

structure LayerMajorP40WholeCoreLinearPhaseRegions where
  rawQkvBf16 : RequestMatrixRegion := {}
  convQkvBf16 : RequestMatrixRegion := {}
  zBf16 : RequestMatrixRegion := {}
  aBf16 : RequestMatrixRegion := {}
  bBf16 : RequestMatrixRegion := {}
  promptWideWorkspace : RequestRegion := {}
  outputBf16 : RequestMatrixRegion := {}
  normalizedInputBf16 : RequestMatrixRegion := {}
  branchOutputBf16 : RequestMatrixRegion := {}

structure LayerMajorP40WholeCoreFullAttentionPhaseRegions where
  rawQGateBf16 : RequestMatrixRegion := {}
  processedQBf16 : RequestMatrixRegion := {}
  packedGateBf16 : RequestMatrixRegion := {}
  normalizedInputBf16 : RequestMatrixRegion := {}
  coreOutputBf16 : RequestMatrixRegion := {}
  branchOutputBf16 : RequestMatrixRegion := {}

structure LayerMajorP40WholeCoreRegions where
  promptTokenCount : ℕ := 0
  requestCapacityTokens : ℕ := 0
  logicalPanelCapacityTokens : ℕ := 0
  logicalPanelCount : ℕ := 0
  familyPhaseArena : RequestRegion := {}
  promptTokenIdsU32 : RequestMatrixRegion := {}
  linear : LayerMajorP40WholeCoreLinearPhaseRegions := {}
  fullAttention : LayerMajorP40WholeCoreFullAttentionPhaseRegions := {}

def layerMajorRequestOperatorPanelCapacity : ℕ := 8192

structure LayerMajorRequestMemoryPlan where
  common : RequestMemoryPlan := {}
  layout : LayerMajorRequestLayout := .c8192FamilyOverlay
  operatorPanelCapacityTokens : ℕ := layerMajorRequestOperatorPanelCapacity
  legacyPrefillChunkSize : ℕ := maximumRequestPrefillChunkSize
  mlpCapacityTokens : ℕ := layerMajorRequestOperatorPanelCapacity
  mlpLayout : LayerMajorRequestMlpLayout := .panelLocalThreeSpan
  promptResidualBf16 : RequestMatrixRegion := {}
  c8192FamilyPhaseArena : RequestRegion := {}
  panelTokenIdsU32 : RequestMatrixRegion := {}
  gdn : LayerMajorGdnPhaseRegions := {}
  attention : LayerMajorAttentionPhaseRegions := {}
  mlp : LayerMajorMlpPhaseRegions := {}
  legacyC512 : LayerMajorLegacyC512Regions := {}
  p40WholeCore : LayerMajorP40WholeCoreRegions := {}
  finalHiddenBf16 : RequestMatrixRegion := {}
  hiddenStrategy : PrefillHiddenStrategy := .unselected
  scratchStrategy : PrefillOperatorScratchStrategy := .unselected
  gdnTactic : PrefillGdnPhysicalTactic := .unselected
  legacyGdnTactic : PrefillLegacyGdnPhysicalTactic := .unselected
  mlpTactic : PrefillMlpPhysicalTactic := .unselected
  promptResidualInPlaceContractBound : Bool := false
  familyCompletionEventsBound : Bool := false
  intraFamilyPhaseContractBound : Bool := false
  promptTokenIdsConsumedEventBound : Bool := false
  projectionWorkspaceSubrangeBindingBound : Bool := false
  operatorBindingsComplete : Bool := false

def LayerMajorRequestMemoryPlan.executable (plan : LayerMajorRequestMemoryPlan) : Bool :=
  plan.promptResidualInPlaceContractBound && plan.familyCompletionEventsBound &&
    plan.intraFamilyPhaseContractBound && plan.promptTokenIdsConsumedEventBound &&
    plan.projectionWorkspaceSubrangeBindingBound && plan.operatorBindingsComplete

end Regions

section Subregions

open PlanBuilder

def addMatrix (rows columns rowStrideElements elementSize cursor : ℕ) :
    Option (RequestMatrixRegion × ℕ) := do
  guard (rows ≠ 0 ∧ columns ≠ 0 ∧ columns ≤ rowStrideElements)
  let elements ← checkedMultiply rows rowStrideElements
  let (storage, cursor) ← add elements elementSize cursor
  pure (⟨storage, rows, columns, rowStrideElements⟩, cursor)

def addMatrices (rows columns elementSize : ℕ) :
    ℕ → ℕ → Option (List RequestMatrixRegion × ℕ)
  | 0, cursor => some ([], cursor)
  | count + 1, cursor => do
    let (matrix, cursor) ← addMatrix rows columns columns elementSize cursor
    let (matrices, cursor) ← addMatrices rows columns elementSize count cursor
    pure (matrix :: matrices, cursor)

-- The loop over the cache slots, with each slot's own capacity.
def addCachesOf : List (RequestRegion × RequestRegion) → ℕ →
    Option (List (RequestRegion × RequestRegion) × ℕ)
  | [], cursor => some ([], cursor)
  | (key, value) :: slots, cursor => do
    let (key, cursor) ← add key.elementCapacity key.elementSizeBytes cursor
    let (value, cursor) ← add value.elementCapacity value.elementSizeBytes cursor
    let (caches, cursor) ← addCachesOf slots cursor
    pure ((key, value) :: caches, cursor)

def makeSubregionChecked (aggregate : RequestRegion)
    (relativeOffset byteSize elements elementSize : ℕ) : Option RequestRegion := do
  guard (byteSize ≠ 0 ∧ elements ≠ 0 ∧ elementSize ≠ 0)
  let typedBytes ← checkedMultiply elements elementSize
  guard (typedBytes = byteSize)
  let relativeEnd ← checkedAdd relativeOffset byteSize
  guard (relativeEnd ≤ aggregate.byteSize)
  let arenaOffset ← checkedAdd aggregate.arenaOffset relativeOffset
  pure ⟨arenaOffset, byteSize, elements, elementSize⟩

def makeByteSubregionChecked (aggregate : RequestRegion) (relativeOffset byteSize : ℕ) :
    Option RequestRegion :=
  makeSubregionChecked aggregate relativeOffset byteSize byteSize 1

def makeMatrixSubregionChecked (aggregate : RequestRegion)
    (relativeOffset rows columns rowStrideElements elementSize : ℕ) :
    Option RequestMatrixRegion := do
  guard (rows ≠ 0 ∧ columns ≠ 0 ∧ columns ≤ rowStrideElements)
  let elements ← checkedMultiply rows rowStrideElements
  let bytes ← checkedMultiply elements elementSize
  let storage ← makeSubregionChecked aggregate relativeOffset bytes elements elementSize
  pure ⟨storage, rows, columns, rowStrideElements⟩

end Subregions

end Qwen3xOrin.Request
